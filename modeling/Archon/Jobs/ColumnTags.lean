/-
# The tags of a column in the answer of a tool

The Core adapter and the gateway read the tags of a column off the answer of `get_entities`,
whatever its shape.  Both walk the whole answer and remember whether they are inside an object that
names the column.  There a tag is taken where it is the value of a member; a string that is the
element of a list is passed by, although everything else in a list is walked.

`mem_walk` says where a string has to stand to be taken.  So the tags are all of those that stand
inside an object naming the column exactly where every tag that is the element of a list there is
also the value of a member there (`tagsOf_iff`).
-/
import Archon.Jobs.Gateway

namespace Jobs

open Ecma

/-! ## 1. What stands inside a value -/

namespace Py

/-- Induction on a value, with the claim for every element of a list and for the value of every
member of a dict. -/
@[elab_as_elim]
theorem induct {p : Py → Prop} (v : Py) (none : p .none) (bool : ∀ b, p (.bool b))
    (int : ∀ n, p (.int n)) (float : ∀ repr isFinite, p (.float repr isFinite))
    (decimal : ∀ numeral, p (.decimal numeral)) (str : ∀ t, p (.str t))
    (list : ∀ items, (∀ v ∈ items, p v) → p (.list items))
    (dict : ∀ fields : List (Text × Py), (∀ f ∈ fields, p f.2) → p (.dict fields)) : p v :=
  match v with
  | .none => none
  | .bool b => bool b
  | .int n => int n
  | .float repr isFinite => float repr isFinite
  | .decimal numeral => decimal numeral
  | .str t => str t
  | .list items => list items fun v _ => induct v none bool int float decimal str list dict
  | .dict fields => dict fields fun f _ => induct f.2 none bool int float decimal str list dict
termination_by sizeOf v
decreasing_by
  · rename_i hv
    have := List.sizeOf_lt_of_mem hv
    simp only [Py.list.sizeOf_spec]
    omega
  · rename_i hf
    have h1 := List.sizeOf_lt_of_mem hf
    have h2 : sizeOf f.2 < sizeOf f := by cases f; simp
    simp only [Py.dict.sizeOf_spec]
    omega

/-- A value inside a value, which may be that value itself. -/
inductive Inside (w : Py) : Py → Prop where
  | here : Inside w w
  | item {v : Py} {items : List Py} : v ∈ items → Inside w v → Inside w (.list items)
  | member {f : Text × Py} {fields : List (Text × Py)} : f ∈ fields → Inside w f.2 →
      Inside w (.dict fields)

/-- A string that is the value of a member of a dict inside a value. -/
def HasMember (t : Text) (v : Py) : Prop :=
  ∃ fields, Inside (.dict fields) v ∧ ∃ key, (key, .str t) ∈ fields

/-- A string that is the element of a list inside a value. -/
def HasElement (t : Text) (v : Py) : Prop := ∃ items, Inside (.list items) v ∧ .str t ∈ items

end Py

open Py (Inside HasMember HasElement)

/-! ## 2. The walk -/

/-- Does the dict name the column? -/
def names (column : Text) (fields : List (Text × Py)) : Bool :=
  ["fieldPath", "columnPath", "path"].any fun key => ((Py.dict fields).get key).isText column

/-- A string that is taken for a tag. -/
def isTagText (t : Text) : Bool := (js "urn:li:tag:").isPrefixOf t && len t ≤ 256

/-- An object inside a value that names the column. -/
def ColumnObject (column : Text) (v object : Py) : Prop :=
  ∃ fields, object = .dict fields ∧ Inside object v ∧ names column fields = true

section Walk

variable {column t : Text}

theorem columnObject_list {items : List Py} {object : Py} :
    ColumnObject column (.list items) object ↔ ∃ v ∈ items, ColumnObject column v object := by
  constructor
  · rintro ⟨fields, rfl, hinside, hnames⟩
    cases hinside with
    | item hmem hinside => exact ⟨_, hmem, fields, rfl, hinside, hnames⟩
  · rintro ⟨v, hv, fields, rfl, hinside, hnames⟩
    exact ⟨fields, rfl, .item hv hinside, hnames⟩

theorem columnObject_dict {fields : List (Text × Py)} {object : Py} :
    ColumnObject column (.dict fields) object ↔
      object = .dict fields ∧ names column fields = true
        ∨ ∃ f ∈ fields, ColumnObject column f.2 object := by
  constructor
  · rintro ⟨members, rfl, hinside, hnames⟩
    cases hinside with
    | here => exact .inl ⟨rfl, hnames⟩
    | member hmem hinside => exact .inr ⟨_, hmem, members, rfl, hinside, hnames⟩
  · rintro (⟨rfl, hnames⟩ | ⟨f, hf, members, rfl, hinside, hnames⟩)
    · exact ⟨fields, rfl, .here, hnames⟩
    · exact ⟨members, rfl, .member hf hinside, hnames⟩

theorem hasMember_list {items : List Py} :
    HasMember t (.list items) ↔ ∃ v ∈ items, HasMember t v := by
  constructor
  · rintro ⟨fields, hinside, hkey⟩
    cases hinside with
    | item hmem hinside => exact ⟨_, hmem, fields, hinside, hkey⟩
  · rintro ⟨v, hv, fields, hinside, hkey⟩
    exact ⟨fields, .item hv hinside, hkey⟩

theorem hasMember_dict {fields : List (Text × Py)} :
    HasMember t (.dict fields) ↔ ∃ f ∈ fields, f.2 = .str t ∨ HasMember t f.2 := by
  constructor
  · rintro ⟨members, hinside, key, hkey⟩
    cases hinside with
    | here => exact ⟨_, hkey, .inl rfl⟩
    | member hmem hinside => exact ⟨_, hmem, .inr ⟨members, hinside, key, hkey⟩⟩
  · rintro ⟨f, hf, hstr | ⟨members, hinside, hkey⟩⟩
    · exact ⟨fields, .here, f.1, hstr ▸ hf⟩
    · exact ⟨members, .member hf hinside, hkey⟩

/-- What a walk finds in a value. -/
structure Walked (column : Text) (v : Py) (within : Bool) (answer : Bool × List Text) : Prop where
  found : answer.1 = true ↔ ∃ object, ColumnObject column v object
  mem : ∀ t, t ∈ answer.2 ↔ isTagText t = true
    ∧ (within = true ∧ HasMember t v
      ∨ ∃ object, ColumnObject column v object ∧ HasMember t object)

theorem walkItems_spec (column : Text) (within : Bool) (items : List Py) :
    ((walkItems column items within).1 = true ↔ ∃ v ∈ items, (walk column v within).1 = true)
      ∧ ∀ t, t ∈ (walkItems column items within).2 ↔ ∃ v ∈ items, t ∈ (walk column v within).2 := by
  induction items with
  | nil => simp [walkItems]
  | cons v vs ih =>
    obtain ⟨hfound, hmem⟩ := ih
    constructor
    · rw [walkItems, Bool.or_eq_true, hfound]
      simp
    · intro t
      rw [walkItems, List.mem_append, hmem]
      simp

/-- The tag that is taken from a member, where its value is one. -/
def taken (within : Bool) : Py → List Text
  | .str t => if within && isTagText t then [t] else []
  | _ => []

theorem mem_taken {within : Bool} {v : Py} :
    t ∈ taken within v ↔ v = .str t ∧ within = true ∧ isTagText t = true := by
  cases v with
  | str s =>
    rw [taken]
    split
    case isTrue h =>
      obtain ⟨hwithin, htag⟩ := Bool.and_eq_true_iff.mp h
      rw [List.mem_singleton, Py.str.injEq]
      constructor
      · rintro rfl
        exact ⟨rfl, hwithin, htag⟩
      · exact fun h => h.1.symm
    case isFalse h =>
      refine iff_of_false List.not_mem_nil ?_
      rintro ⟨hs, hwithin, htag⟩
      rw [Py.str.inj hs] at h
      exact h (Bool.and_eq_true_iff.mpr ⟨hwithin, htag⟩)
  | _ =>
    refine iff_of_false List.not_mem_nil ?_
    rintro ⟨hs, -⟩
    cases hs

theorem walkFields_cons (within : Bool) (f : Text × Py) (fs : List (Text × Py)) :
    walkFields column (f :: fs) within =
      ((walk column f.2 within).1 || (walkFields column fs within).1,
        taken within f.2 ++ (walk column f.2 within).2 ++ (walkFields column fs within).2) := by
  obtain ⟨key, v⟩ := f
  cases v with
  | str s =>
    have hwalk : walk column (.str s) within = (false, []) := by
      rw [walk] <;> simp
    rw [walkFields, hwalk, taken, List.append_nil, Bool.and_assoc, ← isTagText]
    by_cases h : (within && isTagText s) = true
    · rw [if_pos h, if_pos h]
    · rw [if_neg h, if_neg h]
  | _ => rw [walkFields, taken, List.nil_append] <;> simp

theorem walkFields_spec (column : Text) (within : Bool) (fields : List (Text × Py)) :
    ((walkFields column fields within).1 = true ↔ ∃ f ∈ fields, (walk column f.2 within).1 = true)
      ∧ ∀ t, t ∈ (walkFields column fields within).2 ↔
        ∃ f ∈ fields, t ∈ taken within f.2 ∨ t ∈ (walk column f.2 within).2 := by
  induction fields with
  | nil => simp [walkFields]
  | cons f fs ih =>
    obtain ⟨hfound, hmem⟩ := ih
    constructor
    · rw [walkFields_cons, Bool.or_eq_true, hfound]
      simp
    · intro t
      rw [walkFields_cons, List.mem_append, List.mem_append, hmem]
      simp

theorem walked_leaf {v : Py} {within : Bool} (hwalk : walk column v within = (false, []))
    (hleaf : ∀ fields, ¬ Inside (.dict fields) v) :
    Walked column v within (walk column v within) := by
  rw [hwalk]
  refine ⟨iff_of_false nofun ?_, fun t => iff_of_false List.not_mem_nil ?_⟩
  · rintro ⟨object, fields, rfl, hinside, -⟩
    exact hleaf fields hinside
  · rintro ⟨-, ⟨-, fields, hinside, -⟩ | ⟨object, ⟨fields, rfl, hinside, -⟩, -⟩⟩
    · exact hleaf fields hinside
    · exact hleaf fields hinside

/-- **What a walk finds in any value**, inside an object that names the column or not. -/
theorem mem_walk (column : Text) (v : Py) :
    ∀ within, Walked column v within (walk column v within) := by
  refine Py.induct v ?_ ?_ ?_ ?_ ?_ ?_ ?_ ?_
  · intro within
    exact walked_leaf rfl nofun
  · intro b within
    exact walked_leaf rfl nofun
  · intro n within
    exact walked_leaf rfl nofun
  · intro repr isFinite within
    exact walked_leaf rfl nofun
  · intro numeral within
    exact walked_leaf rfl nofun
  · intro t within
    exact walked_leaf rfl nofun
  · intro items ih within
    obtain ⟨hfound, hmem⟩ := walkItems_spec column within items
    rw [walk]
    constructor
    · rw [hfound]
      constructor
      · rintro ⟨v, hv, hone⟩
        obtain ⟨object, hobject⟩ := (ih v hv within).found.mp hone
        exact ⟨object, columnObject_list.mpr ⟨v, hv, hobject⟩⟩
      · rintro ⟨object, hobject⟩
        obtain ⟨v, hv, hobject⟩ := columnObject_list.mp hobject
        exact ⟨v, hv, (ih v hv within).found.mpr ⟨object, hobject⟩⟩
    · intro t
      rw [hmem]
      constructor
      · rintro ⟨v, hv, ht⟩
        obtain ⟨htag, hplace⟩ := ((ih v hv within).mem t).mp ht
        rcases hplace with ⟨hwithin, hmember⟩ | ⟨object, hobject, hmember⟩
        · exact ⟨htag, .inl ⟨hwithin, hasMember_list.mpr ⟨v, hv, hmember⟩⟩⟩
        · exact ⟨htag, .inr ⟨object, columnObject_list.mpr ⟨v, hv, hobject⟩, hmember⟩⟩
      · rintro ⟨htag, ⟨hwithin, hmember⟩ | ⟨object, hobject, hmember⟩⟩
        · obtain ⟨v, hv, hmember⟩ := hasMember_list.mp hmember
          exact ⟨v, hv, ((ih v hv within).mem t).mpr ⟨htag, .inl ⟨hwithin, hmember⟩⟩⟩
        · obtain ⟨v, hv, hobject⟩ := columnObject_list.mp hobject
          exact ⟨v, hv, ((ih v hv within).mem t).mpr ⟨htag, .inr ⟨object, hobject, hmember⟩⟩⟩
  · intro fields ih within
    obtain ⟨hfound, hmem⟩ := walkFields_spec column (within || names column fields) fields
    rw [walk, ← names]
    constructor
    · rw [Bool.or_eq_true, hfound]
      constructor
      · rintro (hnames | ⟨f, hf, hone⟩)
        · exact ⟨_, columnObject_dict.mpr (.inl ⟨rfl, hnames⟩)⟩
        · obtain ⟨object, hobject⟩ := (ih f hf _).found.mp hone
          exact ⟨object, columnObject_dict.mpr (.inr ⟨f, hf, hobject⟩)⟩
      · rintro ⟨object, hobject⟩
        rcases columnObject_dict.mp hobject with ⟨-, hnames⟩ | ⟨f, hf, hobject⟩
        · exact .inl hnames
        · exact .inr ⟨f, hf, (ih f hf _).found.mpr ⟨object, hobject⟩⟩
    · intro t
      rw [hmem]
      constructor
      · rintro ⟨f, hf, ht⟩
        have hinside : (within || names column fields) = true → f.2 = .str t ∨ HasMember t f.2 →
            within = true ∧ HasMember t (.dict fields)
              ∨ ∃ object, ColumnObject column (.dict fields) object ∧ HasMember t object := by
          intro hwithin hmember
          have hdict := hasMember_dict.mpr ⟨f, hf, hmember⟩
          rcases (Bool.or_eq_true _ _).mp hwithin with hwithin | hnames
          · exact .inl ⟨hwithin, hdict⟩
          · exact .inr ⟨_, columnObject_dict.mpr (.inl ⟨rfl, hnames⟩), hdict⟩
        rcases ht with ht | ht
        · obtain ⟨hstr, hwithin, htag⟩ := mem_taken.mp ht
          exact ⟨htag, hinside hwithin (.inl hstr)⟩
        · obtain ⟨htag, hplace⟩ := ((ih f hf _).mem t).mp ht
          rcases hplace with ⟨hwithin, hmember⟩ | ⟨object, hobject, hmember⟩
          · exact ⟨htag, hinside hwithin (.inr hmember)⟩
          · exact ⟨htag, .inr ⟨object, columnObject_dict.mpr (.inr ⟨f, hf, hobject⟩), hmember⟩⟩
      · rintro ⟨htag, hplace⟩
        have htaken : (within || names column fields) = true → HasMember t (.dict fields) →
            ∃ f ∈ fields, t ∈ taken (within || names column fields) f.2
              ∨ t ∈ (walk column f.2 (within || names column fields)).2 := by
          intro hwithin hmember
          obtain ⟨f, hf, hstr | hmember⟩ := hasMember_dict.mp hmember
          · exact ⟨f, hf, .inl (mem_taken.mpr ⟨hstr, hwithin, htag⟩)⟩
          · exact ⟨f, hf, .inr (((ih f hf _).mem t).mpr ⟨htag, .inl ⟨hwithin, hmember⟩⟩)⟩
        rcases hplace with ⟨hwithin, hmember⟩ | ⟨object, hobject, hmember⟩
        · exact htaken ((Bool.or_eq_true _ _).mpr (.inl hwithin)) hmember
        · rcases columnObject_dict.mp hobject with ⟨rfl, hnames⟩ | ⟨f, hf, hobject⟩
          · exact htaken ((Bool.or_eq_true _ _).mpr (.inr hnames)) hmember
          · exact ⟨f, hf, .inr (((ih f hf _).mem t).mpr ⟨htag, .inr ⟨object, hobject, hmember⟩⟩)⟩

end Walk

/-! ## 3. Tags in order -/

theorem mem_sortedTags {tags : List Text} {t : Text} : t ∈ sortedTags tags ↔ t ∈ tags := by
  rw [sortedTags, List.mem_mergeSort, List.mem_dedup]

theorem nodup_sortedTags (tags : List Text) : (sortedTags tags).Nodup :=
  (List.mergeSort_perm _ _).nodup_iff.mpr (List.nodup_dedup tags)

theorem pairwise_sortedTags (tags : List Text) :
    (sortedTags tags).Pairwise fun a b => codePoints a ≤ codePoints b := by
  have htrans : ∀ a b c : Text, decide (codePoints a ≤ codePoints b) = true →
      decide (codePoints b ≤ codePoints c) = true →
      decide (codePoints a ≤ codePoints c) = true := by
    intro a b c hab hbc
    rw [decide_eq_true_eq] at *
    exact le_trans hab hbc
  have htotal : ∀ a b : Text,
      (decide (codePoints a ≤ codePoints b) || decide (codePoints b ≤ codePoints a)) = true := by
    intro a b
    rw [Bool.or_eq_true, decide_eq_true_eq, decide_eq_true_eq]
    exact le_total _ _
  exact (List.pairwise_mergeSort htrans htotal tags.dedup).imp of_decide_eq_true

/-! ## 4. The two programs -/

/-- `_column_tags` of the adapter, for the column of a request. -/
def adapterColumnTags (value : Py) (columnPath : Text) : Bool × List Text :=
  let (found, tags) := walk columnPath value false
  (found, tags.dedup)

/-- `_column_tags` of the gateway, whose own copy of the walk has the one column written into it. -/
def gatewayColumnTags (value : Py) : Bool × List Text :=
  let (found, tags) := walk COLUMN_PATH value false
  (found, tags.dedup)

/-- What an answer has to say of a column: whether an object names it, and the tags inside such an
object, the values of members and the elements of lists. -/
structure TagsOf (column : Text) (value : Py) (answer : Bool × List Text) : Prop where
  found : answer.1 = true ↔ ∃ object, ColumnObject column value object
  nodup : answer.2.Nodup
  complete : ∀ t, isTagText t = true → ∀ object, ColumnObject column value object →
    HasMember t object ∨ HasElement t object → t ∈ answer.2
  sound : ∀ t ∈ answer.2, ∃ object, ColumnObject column value object
    ∧ (HasMember t object ∨ HasElement t object)

/-- Every tag that is the element of a list inside an object naming the column is the value of a
member inside one. -/
def Membered (column : Text) (value : Py) : Prop :=
  ∀ t, isTagText t = true → ∀ object, ColumnObject column value object → HasElement t object →
    ∃ object', ColumnObject column value object' ∧ HasMember t object'

/-- **When the two programs read all tags of the column.**  Of any value both give the same answer,
and it is right exactly when every tag in a list of the column is also the value of a member there.
-/
theorem tagsOf_iff (value : Py) :
    adapterColumnTags value COLUMN_PATH = gatewayColumnTags value
      ∧ (TagsOf COLUMN_PATH value (gatewayColumnTags value) ↔ Membered COLUMN_PATH value) := by
  have hwalked := mem_walk COLUMN_PATH value false
  have hmem : ∀ t, t ∈ (gatewayColumnTags value).2 ↔ isTagText t = true
      ∧ ∃ object, ColumnObject COLUMN_PATH value object ∧ HasMember t object := by
    intro t
    rw [gatewayColumnTags, List.mem_dedup, hwalked.mem]
    simp
  refine ⟨rfl, fun h => ?_, fun h => ?_⟩
  · intro t htag object hobject helement
    exact ((hmem t).mp (h.complete t htag object hobject (.inr helement))).2
  · constructor
    · exact hwalked.found
    · exact List.nodup_dedup _
    · intro t htag object hobject hplace
      refine (hmem t).mpr ⟨htag, ?_⟩
      rcases hplace with hmember | helement
      · exact ⟨object, hobject, hmember⟩
      · exact h t htag object hobject helement
    · intro t ht
      obtain ⟨-, object, hobject, hmember⟩ := (hmem t).mp ht
      exact ⟨object, hobject, .inl hmember⟩

/-- A column whose tag stands in a list, as it is. -/
def bareTag : Py :=
  .object [("fieldPath", .str COLUMN_PATH), ("tags", .list [.str PII_TAG])]

/-- **A tag in a list is missed**, though the column is found. -/
theorem not_tagsOf_bareTag : gatewayColumnTags bareTag = (true, [])
    ∧ ¬ TagsOf COLUMN_PATH bareTag (gatewayColumnTags bareTag) := by
  have hanswer : gatewayColumnTags bareTag = (true, []) := by decide +kernel
  refine ⟨hanswer, fun h => ?_⟩
  have hobject : ColumnObject COLUMN_PATH bareTag bareTag := ⟨_, rfl, .here, by decide +kernel⟩
  have helement : HasElement PII_TAG bareTag :=
    ⟨[.str PII_TAG], .member (List.mem_cons_of_mem _ List.mem_cons_self) .here, List.mem_cons_self⟩
  have hmem := h.complete PII_TAG (by decide +kernel) bareTag hobject (.inr helement)
  rw [hanswer] at hmem
  exact List.not_mem_nil hmem

end Jobs
