/-
# The values of the Python programs

The adapter and the gateway of the Core host are written in Python.  What they pass around is JSON,
as `json.loads` and boto3 return it: `Py`.  A number is an `int` where it was parsed from JSON, and
a `Decimal`, which is no `int`, where it was read from the table.

A Python string is kept as its UTF-16 units, like every other text; its length and what a regular
expression sees are its code points.  `dumps` is `json.dumps` as both programs call it, and fails
where `json.dumps` or the encoding to UTF-8 does.
-/
import Archon.Remediation.Platform
import Archon.Ecma.Instant
import Archon.Runtime.Binding

namespace Jobs

open Ecma Remediation

/-! ## 1. Values -/

/-- A value of the programs. -/
inductive Py where
  | none
  | bool (b : Bool)
  | int (n : Int)
  /-- With its `repr`. -/
  | float (repr : Text) (isFinite : Bool)
  /-- A number that was read from the table. -/
  | decimal (numeral : Text)
  | str (t : Text)
  | list (items : List Py)
  | dict (fields : List (Text × Py))

namespace Py

/-- A string literal. -/
def lit (s : String) : Py := .str (js s)

/-- A dict literal. -/
def object (fields : List (String × Py)) : Py := .dict (fields.map fun f => (js f.1, f.2))

/-- The value under a key, if there is one. -/
def get? (v : Py) (key : String) : Option Py :=
  match v with
  | .dict fields => fields.lookup (js key)
  | _ => Option.none

/-- `v.get(key)`, and `None` where `v` is no dict. -/
def get (v : Py) (key : String) : Py := (v.get? key).getD .none

/-- `v == t`, for a string. -/
def isText (v : Py) (t : Text) : Bool :=
  match v with
  | .str s => s = t
  | _ => false

/-- `isinstance(v, str) and form(v)`. -/
def isForm (v : Py) (form : Text → Bool) : Bool :=
  match v with
  | .str s => form s
  | _ => false

/-- `v == [..]`, for a list of strings. -/
def isTexts (v : Py) (ts : List Text) : Bool :=
  match v with
  | .list items => items.length = ts.length && (items.zip ts).all fun p => p.1.isText p.2
  | _ => false

/-- `isinstance(v, dict)`. -/
def isDict : Py → Bool
  | .dict _ => true
  | _ => false

/-- `_exact`. -/
def exact (v : Py) (keys : List String) : Bool :=
  match v with
  | .dict fields => keys.all (fun k => (fields.lookup (js k)).isSome)
      && fields.all fun f => keys.any fun k => f.1 = js k
  | _ => false

/-- The string, where it is one. -/
def text? : Py → Option Text
  | .str t => some t
  | _ => Option.none

theorem isText_iff {v : Py} {t : Text} : v.isText t = true ↔ v = .str t := by
  cases v <;> simp [isText]

theorem isForm_iff {v : Py} {form : Text → Bool} :
    v.isForm form = true ↔ ∃ t, v = .str t ∧ form t = true := by
  cases v <;> simp [isForm]

@[simp] theorem isText_self (t : Text) : (Py.str t).isText t = true := isText_iff.mpr rfl

@[simp] theorem isForm_str (t : Text) (form : Text → Bool) : (Py.str t).isForm form = form t := rfl

@[simp] theorem text?_str (t : Text) : (Py.str t).text? = some t := rfl

@[simp] theorem get?_object (fields : List (String × Py)) (key : String) :
    (object fields).get? key = fields.lookup key := by
  change (fields.map fun f => (js f.1, f.2)).lookup (js key) = fields.lookup key
  induction fields with
  | nil => rfl
  | cons f fields ih =>
    obtain ⟨name, v⟩ := f
    rw [List.map_cons, List.lookup_cons, List.lookup_cons, ih]
    by_cases hname : key = name
    · subst hname
      simp
    · have hjs : (js key == js name) = false := beq_false_of_ne fun he => hname (js_inj.mp he)
      rw [hjs, beq_false_of_ne hname]

@[simp] theorem get_object (fields : List (String × Py)) (key : String) :
    (object fields).get key = (fields.lookup key).getD .none := by
  rw [get, get?_object]

@[simp] theorem exact_object (fields : List (String × Py)) (keys : List String) :
    (object fields).exact keys = (keys.all (fun k => (fields.lookup k).isSome)
      && fields.all fun f => keys.any fun k => f.1 = k) := by
  have hget : ∀ k, ((fields.map fun f => (js f.1, f.2)).lookup (js k)) = fields.lookup k :=
    get?_object fields
  unfold exact object
  simp only [hget, List.all_map, Function.comp_def, js_inj]

/-- A list that is one of strings. -/
theorem isTexts_iff {v : Py} {ts : List Text} : v.isTexts ts = true ↔ v = .list (ts.map .str) := by
  cases v with
  | list items =>
    simp only [isTexts, Bool.and_eq_true, decide_eq_true_eq, list.injEq]
    induction items generalizing ts with
    | nil => cases ts <;> simp
    | cons v items ih =>
      cases ts with
      | nil => simp
      | cons t ts =>
        have hrest : items.length = ts.length ∧ ((items.zip ts).all fun p => p.1.isText p.2) = true ↔
            items = ts.map .str := ih
        simp only [List.length_cons, List.zip_cons_cons, List.all_cons, Bool.and_eq_true,
          Nat.add_right_cancel_iff, List.map_cons, List.cons.injEq, isText_iff, ← hrest]
        tauto
  | _ => simp [isTexts]

end Py

/-! ## 2. Texts -/

/-- The code points of a text. -/
def codePoints : Text → List Nat
  | u :: v :: t =>
    if isHigh u && isLow v then
      (0x10000 + (u.toNat - 0xD800) * 0x400 + (v.toNat - 0xDC00)) :: codePoints t
    else u.toNat :: codePoints (v :: t)
  | [u] => [u.toNat]
  | [] => []

/-- `len(s)`. -/
def len (t : Text) : Nat := (codePoints t).length

/-- A text that UTF-8 can encode: every surrogate is half of a pair. -/
def encodable (t : Text) : Bool := (codePoints t).all fun c => c < 0xD800 || 0xE000 ≤ c

/-- The decimal digits of Unicode, as far as `\d` matches them: the zero of each ten. -/
def decimalZeros : List Nat :=
  [0x30, 0x660, 0x6F0, 0x7C0, 0x966, 0x9E6, 0xA66, 0xAE6, 0xB66, 0xBE6, 0xC66, 0xCE6, 0xD66, 0xDE6,
    0xE50, 0xED0, 0xF20, 0x1040, 0x1090, 0x17E0, 0x1810, 0x1946, 0x19D0, 0x1A80, 0x1A90, 0x1B50,
    0x1BB0, 0x1C40, 0x1C50, 0xA620, 0xA8D0, 0xA900, 0xA9D0, 0xA9F0, 0xAA50, 0xABF0, 0xFF10, 0x104A0,
    0x10D30, 0x11066, 0x110F0, 0x11136, 0x111D0, 0x112F0, 0x11450, 0x114D0, 0x11650, 0x116C0,
    0x11730, 0x118E0, 0x11950, 0x11C50, 0x11D50, 0x11DA0, 0x11F50, 0x16A60, 0x16AC0, 0x16B50,
    0x1D7CE, 0x1D7D8, 0x1D7E2, 0x1D7EC, 0x1D7F6, 0x1E140, 0x1E2F0, 0x1E4F0, 0x1E950, 0x1FBF0]

/-- `\d`. -/
def isDecimal (c : Nat) : Bool := decimalZeros.any fun z => z ≤ c && c ≤ z + 9

/-- `^\d{4}-\d{2}-\d{2}T\d{2}:\d{2}:\d{2}\.\d{3}Z$`. -/
def isIso (t : Text) : Bool :=
  let shape := "dddd-dd-ddTdd:dd:dd.dddZ".toList
  let points := codePoints t
  points.length = shape.length
    && (points.zip shape).all fun p => if p.2 = 'd' then isDecimal p.1 else p.1 = p.2.toNat

/-- `^[a-f0-9]{64}$`. -/
def isAudit (t : Text) : Bool := t.length = 64 && t.all isHexDigit

/-- `^sha256:[a-f0-9]{64}$`. -/
def isDigest (t : Text) : Bool :=
  (js "sha256:").isPrefixOf t && t.length = 71 && (t.drop 7).all isHexDigit

/-- A letter, a digit, `_` or `-`. -/
def isTokenUnit (u : UInt16) : Bool := Runtime.isAlphanumeric u || u == 0x5F || u == 0x2D

/-- `^job_[A-Za-z0-9_-]{22}$`. -/
def isJobId (t : Text) : Bool :=
  (js "job_").isPrefixOf t && t.length = 26 && (t.drop 4).all isTokenUnit

/-- `^[A-Za-z0-9][A-Za-z0-9._:-]{0,127}$`. -/
def isApprovalId (t : Text) : Bool :=
  match t with
  | u :: rest => Runtime.isAlphanumeric u && rest.length ≤ 127
      && rest.all fun v => isTokenUnit v || v == 0x2E || v == 0x3A
  | [] => false

/-- `^urn:li:dataset:\(.{1,900}\)$`. -/
def isDataset (t : Text) : Bool :=
  let start := (js "urn:li:dataset:(")
  let inside := (t.drop start.length).dropLast
  start.isPrefixOf t && (t.drop start.length).getLast? = some 0x29
    && 1 ≤ len inside && len inside ≤ 900 && !inside.contains 0x0A

/-! ## 3. `json.dumps` -/

/-- Keys in the order of their code points. -/
def keyLe (a b : Text × Text) : Bool := codePoints a.1 ≤ codePoints b.1

/-- The numeral of an `int`. -/
def intText (n : Int) : Text :=
  if n < 0 then 0x2D :: decimalText n.natAbs else decimalText n.natAbs

mutual

/-- `json.dumps(value, sort_keys=True, separators=(",", ":"), ensure_ascii=False, allow_nan=False)`,
if it can be encoded. -/
def dumps : Py → Option Text
  | .none => some (js "null")
  | .bool b => some (if b then js "true" else js "false")
  | .int n => some (intText n)
  | .float repr isFinite => if isFinite then some repr else none
  | .decimal _ => none
  | .str t => if encodable t then some (quote t) else none
  | .list items => (dumpsItems items).map fun ts => 0x5B :: (commaSep ts ++ [0x5D])
  | .dict fields => (dumpsFields fields).map fun ms =>
      0x7B :: (commaSep ((ms.mergeSort keyLe).map fun m => quote m.1 ++ 0x3A :: m.2) ++ [0x7D])

/-- The elements of a list. -/
def dumpsItems : List Py → Option (List Text)
  | [] => some []
  | v :: vs => do
    let t ← dumps v
    let ts ← dumpsItems vs
    return t :: ts

/-- The members of a dict. -/
def dumpsFields : List (Text × Py) → Option (List (Text × Text))
  | [] => some []
  | (k, v) :: fs => do
    if encodable k then
      let t ← dumps v
      let ts ← dumpsFields fs
      return (k, t) :: ts
    else none

end

theorem toNat_ofNat_unit {n : Nat} (h : n < 0x10000) : (UInt16.ofNat n).toNat = n :=
  UInt16.toNat_ofNat_of_lt' h

/-- The code points of a literal are its characters. -/
theorem codePoints_utf16_append (c : Char) (t : Text) :
    codePoints (utf16 c ++ t) = c.toNat :: codePoints t := by
  have hlt := char_toNat_lt c
  have hsurrogate := char_not_surrogate c
  unfold utf16
  split
  · rename_i hunit
    have htoNat := toNat_ofNat_unit hunit
    have hhigh : isHigh (UInt16.ofNat c.toNat) = false := by
      simp only [isHigh, Bool.and_eq_false_iff, decide_eq_false_iff_not, UInt16.le_iff_toNat_le,
        htoNat, UInt16.reduceToNat]
      omega
    cases t with
    | nil => simp only [List.append_nil, codePoints, htoNat]
    | cons v t => simp [codePoints, hhigh, -Char.ofNat_toNat, htoNat]
  · rename_i hpair
    have hhigh := toNat_ofNat_unit (n := 0xD800 + (c.toNat - 0x10000) / 0x400) (by omega)
    have hlow := toNat_ofNat_unit (n := 0xDC00 + (c.toNat - 0x10000) % 0x400) (by omega)
    have hisHigh : isHigh (UInt16.ofNat (0xD800 + (c.toNat - 0x10000) / 0x400)) = true := by
      simp only [isHigh, Bool.and_eq_true, decide_eq_true_eq, UInt16.le_iff_toNat_le, hhigh,
        UInt16.reduceToNat]
      omega
    have hisLow : isLow (UInt16.ofNat (0xDC00 + (c.toNat - 0x10000) % 0x400)) = true := by
      simp only [isLow, Bool.and_eq_true, decide_eq_true_eq, UInt16.le_iff_toNat_le, hlow,
        UInt16.reduceToNat]
      omega
    simp only [List.cons_append, List.nil_append, codePoints, hisHigh, hisLow, Bool.and_self,
      if_true, hhigh, hlow, List.cons.injEq, and_true]
    omega

/-- A literal can be encoded. -/
@[simp] theorem encodable_js (s : String) : encodable (js s) = true := by
  unfold js encodable
  induction s.toList with
  | nil => rfl
  | cons c cs ih =>
    have hsurrogate := char_not_surrogate c
    rw [List.flatMap_cons, codePoints_utf16_append, List.all_cons, ih, Bool.and_true,
      Bool.or_eq_true, decide_eq_true_eq, decide_eq_true_eq]
    omega

/-- A text without surrogates can be encoded. -/
theorem encodable_of_units : ∀ {t : Text}, (∀ u ∈ t, u < 0xD800) → encodable t = true
  | [], _ => rfl
  | [u], h => by
    have hu := UInt16.lt_iff_toNat_lt.mp (h u List.mem_cons_self)
    simpa [encodable, codePoints] using Or.inl hu
  | u :: v :: t, h => by
    have hu := UInt16.lt_iff_toNat_lt.mp (h u List.mem_cons_self)
    have hhigh : isHigh u = false := by
      simp only [isHigh, Bool.and_eq_false_iff, decide_eq_false_iff_not, UInt16.le_iff_toNat_le,
        UInt16.reduceToNat] at hu ⊢
      omega
    have hrest := encodable_of_units fun w hw => h w (List.mem_cons_of_mem u hw)
    simp only [encodable, codePoints, hhigh, Bool.false_and, Bool.false_eq_true, if_false,
      List.all_cons, Bool.and_eq_true] at hrest ⊢
    exact ⟨by simpa using Or.inl hu, hrest⟩

theorem lt_of_isHexDigit {u : UInt16} (h : isHexDigit u = true) : u < 0xD800 := by
  simp only [isHexDigit, Bool.or_eq_true, Bool.and_eq_true, decide_eq_true_eq,
    UInt16.le_iff_toNat_le, UInt16.lt_iff_toNat_lt, UInt16.reduceToNat] at h ⊢
  omega

theorem encodable_of_isHex {t : Text} (h : t.all isHexDigit = true) : encodable t = true :=
  encodable_of_units fun u hu => lt_of_isHexDigit (List.all_eq_true.mp h u hu)

/-- A digest can be encoded. -/
theorem encodable_of_isDigest {t : Text} (h : isDigest t = true) : encodable t = true := by
  simp only [isDigest, Bool.and_eq_true, List.isPrefixOf_iff_prefix] at h
  obtain ⟨⟨⟨rest, rfl⟩, -⟩, hhex⟩ := h
  have hstart : (js "sha256:").length = 7 := by decide
  rw [← hstart, List.drop_left, List.all_eq_true] at hhex
  refine encodable_of_units fun u hu => ?_
  rcases List.mem_append.mp hu with hu | hu
  · have hunits : (js "sha256:").all (fun u => decide (u < 0xD800)) = true := by decide
    exact of_decide_eq_true (List.all_eq_true.mp hunits u hu)
  · exact lt_of_isHexDigit (hhex u hu)

/-- So can the id of a job. -/
theorem encodable_of_isJobId {t : Text} (h : isJobId t = true) : encodable t = true := by
  simp only [isJobId, Bool.and_eq_true, List.isPrefixOf_iff_prefix] at h
  obtain ⟨⟨⟨rest, rfl⟩, -⟩, hunits⟩ := h
  have hstart : (js "job_").length = 4 := by decide
  rw [← hstart, List.drop_left, List.all_eq_true] at hunits
  refine encodable_of_units fun u hu => ?_
  rcases List.mem_append.mp hu with hu | hu
  · have hprefixUnits : (js "job_").all (fun u => decide (u < 0xD800)) = true := by decide
    exact of_decide_eq_true (List.all_eq_true.mp hprefixUnits u hu)
  · have hu := hunits u hu
    simp only [isTokenUnit, Runtime.isAlphanumeric, isDigit, Bool.or_eq_true,
      Bool.and_eq_true, decide_eq_true_eq, beq_iff_eq, UInt16.le_iff_toNat_le,
      UInt16.lt_iff_toNat_lt, ← UInt16.toNat_inj, UInt16.reduceToNat] at hu ⊢
    omega

@[simp] theorem dumps_str_isSome (t : Text) : (dumps (.str t)).isSome = encodable t := by
  unfold dumps
  cases encodable t <;> rfl

@[simp] theorem dumps_bool_isSome (b : Bool) : (dumps (.bool b)).isSome = true := by
  unfold dumps
  rfl

theorem dumpsItems_isSome (items : List Py) :
    (dumpsItems items).isSome = items.all fun v => (dumps v).isSome := by
  induction items with
  | nil => rfl
  | cons v vs ih =>
    rw [List.all_cons, ← ih, dumpsItems]
    cases dumps v <;> cases dumpsItems vs <;> rfl

@[simp] theorem dumps_list_isSome (items : List Py) :
    (dumps (.list items)).isSome = items.all fun v => (dumps v).isSome := by
  rw [dumps, Option.isSome_map, dumpsItems_isSome]

theorem dumpsFields_isSome (fields : List (Text × Py)) :
    (dumpsFields fields).isSome = fields.all fun f => encodable f.1 && (dumps f.2).isSome := by
  induction fields with
  | nil => rfl
  | cons f fs ih =>
    obtain ⟨k, v⟩ := f
    rw [List.all_cons, ← ih, dumpsFields]
    cases encodable k <;> cases dumps v <;> cases dumpsFields fs <;> rfl

/-- **A dict literal can be encoded where its values can.** -/
@[simp] theorem dumps_object_isSome (fields : List (String × Py)) :
    (dumps (.object fields)).isSome = fields.all fun f => (dumps f.2).isSome := by
  rw [Py.object, dumps, Option.isSome_map, dumpsFields_isSome, List.all_map]
  simp only [Function.comp_def, encodable_js, Bool.true_and]

/-- Members that stand in order stay so. -/
theorem dumps_of_sorted {fields : List (Text × Py)} {ms : List (Text × Text)}
    (h : dumpsFields fields = some ms) (hsorted : ms.Pairwise fun a b => keyLe a b = true) :
    dumps (.dict fields)
      = some (0x7B :: (commaSep (ms.map fun m => quote m.1 ++ 0x3A :: m.2) ++ [0x7D])) := by
  rw [dumps, h, Option.map_some, List.mergeSort_of_pairwise hsorted]

/-- `_digest`. -/
def digest (P : Platform) (v : Py) : Option Text :=
  (dumps v).map fun t => js "sha256:" ++ P.sha256 t

end Jobs
