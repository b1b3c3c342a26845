/-
# The canonical texts of the control function

The control function and `runtime-v2.js` digest a canonical text of their own.  Unlike the one of
`integrity.ts`, it is written out member by member in code unit order, so that no key is moved or
lost by an object on the way.

What is stored as a job is read by Python, which has a canonical text too: `json.dumps` with sorted
keys, in the order of code points.  `dumps_stored` says on which values the two agree: those made of
texts that UTF-8 can encode, with keys in ASCII (`Plain`).  Numbers are left out, for they come back
from the table as `Decimal`.
-/
import Archon.Jobs.Request
import Archon.Remediation.Integrity

namespace Control

open Ecma Ecma.Value Remediation

/-! ## 1. canonicalize -/

mutual

/-- `canonicalize`, where it returns. -/
def canonicalize : Value → Option Text
  | .undefined => none
  | .null => some (js "null")
  | .bool b => some (if b then js "true" else js "false")
  | .num x => if x.isFinite then some x.normZero.text else none
  | .str s => some (quote s)
  | .arr items => (canonicalItems items).map fun ts => 0x5B :: (commaSep ts ++ [0x5D])
  | .obj fields => (canonicalFields fields).map fun ms =>
      0x7B :: (commaSep ((sortKeys ms).map fun m => quote m.1 ++ 0x3A :: m.2) ++ [0x7D])

/-- The elements of an array. -/
def canonicalItems : List Value → Option (List Text)
  | [] => some []
  | v :: vs => do
    let t ← canonicalize v
    let ts ← canonicalItems vs
    return t :: ts

/-- The members of an object. -/
def canonicalFields : List (Text × Value) → Option (List (Text × Text))
  | [] => some []
  | (k, v) :: fs => do
    let t ← canonicalize v
    let ts ← canonicalFields fs
    return (k, t) :: ts

end

/-- `digest`. -/
def digest (P : Platform) (v : Value) : Option Text :=
  (canonicalize v).map fun t => js "sha256:" ++ P.sha256 t

/-- `same`. -/
def same (left right : Value) : Bool :=
  match canonicalize left, canonicalize right with
  | some s, some t => s = t
  | _, _ => false

theorem same_self {v : Value} {t : Text} (h : canonicalize v = some t) : same v v = true := by
  simp [same, h]

/-- A digest has the form of one. -/
theorem isDigest_sha256 (P : Platform) (t : Text) :
    Jobs.isDigest (js "sha256:" ++ P.sha256 t) = true := by
  have hstart : (js "sha256:").length = 7 := by decide
  have hhex := P.sha256_hex t
  rw [Jobs.isDigest, ← hstart, List.drop_left, List.length_append, hstart, P.sha256_length, hhex]
  simp

theorem isDigest_digest {P : Platform} {v : Value} {d : Text} (h : digest P v = some d) :
    Jobs.isDigest d = true := by
  obtain ⟨t, -, rfl⟩ := Option.map_eq_some_iff.mp h
  exact isDigest_sha256 P t

/-! ## 2. What the table returns -/

mutual

/-- What boto3 returns of a value that `toAttribute` wrote: a number is a `Decimal`. -/
def stored : Value → Jobs.Py
  | .undefined => .none
  | .null => .none
  | .bool b => .bool b
  | .num x => .decimal x.text
  | .str s => .str s
  | .arr items => .list (storedItems items)
  | .obj fields => .dict (storedFields fields)

/-- The elements of an array. -/
def storedItems : List Value → List Jobs.Py
  | [] => []
  | v :: vs => stored v :: storedItems vs

/-- The members of an object. -/
def storedFields : List (Text × Value) → List (Text × Jobs.Py)
  | [] => []
  | (k, v) :: fs => (k, stored v) :: storedFields fs

end

mutual

/-- `toAttribute` returns, and UTF-8 can encode every text: the table holds the value as it is. -/
def storable : Value → (level : Nat) → Bool
  | v, level =>
    level ≤ 14 &&
      match v with
      | .undefined => false
      | .null | .bool _ => true
      | .num x => x.isFinite
      | .str s => Jobs.encodable s
      | .arr items => storableItems items (level + 1)
      | .obj fields => storableFields fields (level + 1)

/-- The elements of an array. -/
def storableItems : List Value → (level : Nat) → Bool
  | [], _ => true
  | v :: vs, level => storable v level && storableItems vs level

/-- The members of an object. -/
def storableFields : List (Text × Value) → (level : Nat) → Bool
  | [], _ => true
  | (k, v) :: fs, level => Jobs.encodable k && storable v level && storableFields fs level

end

theorem storedItems_eq (items : List Value) : storedItems items = items.map stored := by
  induction items with
  | nil => rfl
  | cons v vs ih => rw [storedItems, ih, List.map_cons]

theorem storedFields_eq (fields : List (Text × Value)) :
    storedFields fields = fields.map fun f => (f.1, stored f.2) := by
  induction fields with
  | nil => rfl
  | cons f fs ih => rw [storedFields, ih, List.map_cons]

@[simp] theorem stored_str (t : Text) : stored (.str t) = .str t := by rw [stored]

@[simp] theorem stored_bool (b : Bool) : stored (.bool b) = .bool b := by rw [stored]

@[simp] theorem stored_lit (s : String) : stored (lit s) = .lit s := stored_str _

@[simp] theorem stored_arr (items : List Value) : stored (.arr items) = .list (items.map stored) := by
  rw [stored, storedItems_eq]

@[simp] theorem stored_object (fields : List (String × Value)) :
    stored (object fields) = .object (fields.map fun f => (f.1, stored f.2)) := by
  rw [object, stored, storedFields_eq, Jobs.Py.object, List.map_map, List.map_map]
  rfl

/-! ## 3. Plain values -/

/-- A text of printable ASCII. -/
def isAscii (t : Text) : Bool := t.all fun u => 0x20 ≤ u && u ≤ 0x7E

/-- A node of a plain value. -/
def PlainNode : Value → Prop
  | .undefined | .num _ => False
  | .str s => Jobs.encodable s = true
  | .obj fields => (fields.map Prod.fst).Nodup ∧ ∀ f ∈ fields, isAscii f.1 = true
  | _ => True

/-- Texts that can be encoded, under keys of ASCII. -/
def Plain (v : Value) : Prop := Everywhere PlainNode v

theorem plain_lit (s : String) : Plain (lit s) := Jobs.encodable_js s

theorem plain_bool (b : Bool) : Plain (.bool b) := trivial

/-- An object literal is plain where its values are. -/
theorem plain_object {fields : List (String × Value)}
    (hkeys : ((fields.map Prod.fst).Nodup ∧ ∀ k ∈ fields.map Prod.fst, isAscii (js k) = true))
    (h : ∀ f ∈ fields, Plain f.2) : Plain (object fields) := by
  refine everywhere_obj.mpr ⟨⟨?_, ?_⟩, ?_⟩
  · rw [List.map_map]
    have hnodup := hkeys.1.map (f := js) fun _ _ h => js_inj.mp h
    rwa [List.map_map] at hnodup
  · intro f hf
    obtain ⟨g, hg, rfl⟩ := List.mem_map.mp hf
    exact hkeys.2 _ (List.mem_map_of_mem hg)
  · intro f hf
    obtain ⟨g, hg, rfl⟩ := List.mem_map.mp hf
    exact h g hg

/-! ## 4. The two canonical texts -/

/-- The code points of ASCII are its units. -/
theorem codePoints_ascii : ∀ {t : Text}, isAscii t = true →
    Jobs.codePoints t = t.map UInt16.toNat
  | [], _ => rfl
  | [u], _ => rfl
  | u :: v :: t, h => by
    obtain ⟨hu, hrest⟩ := Bool.and_eq_true_iff.mp h
    have hhigh : isHigh u = false := by
      simp only [Bool.and_eq_true, decide_eq_true_eq, UInt16.le_iff_toNat_le,
        UInt16.reduceToNat] at hu
      simp only [isHigh, Bool.and_eq_false_iff, decide_eq_false_iff_not, UInt16.le_iff_toNat_le,
        UInt16.reduceToNat]
      omega
    rw [Jobs.codePoints, hhigh, codePoints_ascii hrest]
    rfl

theorem cons_le_cons_iff (a b : Nat) (s t : List Nat) :
    a :: s ≤ b :: t ↔ a < b ∨ a = b ∧ s ≤ t := by
  rw [← not_lt, ← not_lt, List.cons_lt_cons_iff]
  rcases lt_trichotomy a b with h | rfl | h
  · simp [h, h.ne', h.not_gt]
  · simp
  · simp [h, h.ne', h.not_gt]

/-- The order of lists of numbers is the one of texts. -/
theorem map_toNat_le : ∀ s t : Text,
    s.map UInt16.toNat ≤ t.map UInt16.toNat ↔ codeUnitLe s t = true
  | [], t => by
    rw [← not_lt]
    simpa [codeUnitLe] using List.not_lt_nil (t.map UInt16.toNat)
  | _ :: _, [] => by
    rw [← not_lt]
    simp [codeUnitLe]
  | u :: s, v :: t => by
    rw [List.map_cons, List.map_cons, cons_le_cons_iff, map_toNat_le s t, codeUnitLe,
      UInt16.toNat_inj, ← UInt16.lt_iff_toNat_lt]
    simp

theorem keyLe_iff {a b : Text × Text} (ha : isAscii a.1 = true) (hb : isAscii b.1 = true) :
    Jobs.keyLe a b = true ↔ KeyLe a b := by
  rw [Jobs.keyLe, decide_eq_true_eq, codePoints_ascii ha, codePoints_ascii hb, map_toNat_le]
  rfl

/-- The two sorts of members with different keys in ASCII. -/
theorem mergeSort_keyLe {ms : List (Text × Text)} (hnodup : (ms.map Prod.fst).Nodup)
    (hascii : ∀ m ∈ ms, isAscii m.1 = true) : ms.mergeSort Jobs.keyLe = sortKeys ms := by
  have hmerge : ∀ {m}, m ∈ ms.mergeSort Jobs.keyLe → m ∈ ms := fun h =>
    (List.mergeSort_perm ms _).mem_iff.mp h
  have htrans : ∀ a b c : Text × Text, Jobs.keyLe a b = true → Jobs.keyLe b c = true →
      Jobs.keyLe a c = true := by
    intro a b c hab hbc
    rw [Jobs.keyLe, decide_eq_true_eq] at *
    exact le_trans hab hbc
  have htotal : ∀ a b : Text × Text, (Jobs.keyLe a b || Jobs.keyLe b a) = true := by
    intro a b
    rw [Bool.or_eq_true, Jobs.keyLe, Jobs.keyLe, decide_eq_true_eq, decide_eq_true_eq]
    exact le_total _ _
  refine List.Perm.eq_of_pairwise ?_ ?_ (List.pairwise_insertionSort KeyLe ms)
    ((List.mergeSort_perm ms _).trans (sortKeys_perm ms).symm)
  · intro a b ha hb hab hba
    have hkey : a.1 = b.1 := codeUnitLe_antisymm hab hba
    exact List.inj_on_of_nodup_map hnodup (hmerge ha) ((sortKeys_perm ms).mem_iff.mp hb) hkey
  · refine (List.pairwise_mergeSort htrans htotal ms).imp_of_mem fun ha hb hab => ?_
    exact (keyLe_iff (hascii _ (hmerge ha)) (hascii _ (hmerge hb))).mp hab

theorem encodable_of_isAscii {t : Text} (h : isAscii t = true) : Jobs.encodable t = true := by
  refine Jobs.encodable_of_units fun u hu => ?_
  have hu := List.all_eq_true.mp h u hu
  simp only [Bool.and_eq_true, decide_eq_true_eq, UInt16.le_iff_toNat_le, UInt16.lt_iff_toNat_lt,
    UInt16.reduceToNat] at hu ⊢
  omega

theorem dumpsItems_stored {items : List Value}
    (h : ∀ v ∈ items, Jobs.dumps (stored v) = canonicalize v) :
    Jobs.dumpsItems (storedItems items) = canonicalItems items := by
  induction items with
  | nil => rfl
  | cons v vs ih =>
    obtain ⟨hv, hvs⟩ := List.forall_mem_cons.mp h
    rw [storedItems, Jobs.dumpsItems, canonicalItems, hv, ih hvs]

theorem dumpsFields_stored {fields : List (Text × Value)}
    (hkeys : ∀ f ∈ fields, isAscii f.1 = true)
    (h : ∀ f ∈ fields, Jobs.dumps (stored f.2) = canonicalize f.2) :
    Jobs.dumpsFields (storedFields fields) = canonicalFields fields := by
  induction fields with
  | nil => rfl
  | cons f fs ih =>
    obtain ⟨hf, hfs⟩ := List.forall_mem_cons.mp h
    obtain ⟨hk, hks⟩ := List.forall_mem_cons.mp hkeys
    rw [storedFields, Jobs.dumpsFields, canonicalFields, hf, ih hks hfs,
      encodable_of_isAscii hk]
    rfl

/-- The members keep their keys. -/
theorem map_fst_canonicalFields : ∀ {fields : List (Text × Value)} {ms : List (Text × Text)},
    canonicalFields fields = some ms → ms.map Prod.fst = fields.map Prod.fst
  | [], ms, h => by
    obtain rfl := Option.some.inj h
    rfl
  | (k, v) :: fs, ms, h => by
    rw [canonicalFields] at h
    obtain ⟨t, -, h⟩ := Option.bind_eq_some_iff.mp h
    obtain ⟨ts, hts, h⟩ := Option.bind_eq_some_iff.mp h
    obtain rfl := Option.some.inj h
    rw [List.map_cons, List.map_cons, map_fst_canonicalFields hts]

/-- **Python's canonical text of a plain value is the one it was written with.** -/
theorem dumps_stored {v : Value} : Plain v → Jobs.dumps (stored v) = canonicalize v := by
  refine Value.induct v ?_ ?_ ?_ ?_ ?_ ?_ ?_
  · intro h
    exact h.here.elim
  · intro _
    rw [stored, Jobs.dumps, canonicalize]
  · intro b _
    rw [stored, Jobs.dumps, canonicalize]
  · intro x h
    exact h.here.elim
  · intro s h
    have hs : Jobs.encodable s = true := h
    rw [stored, Jobs.dumps, canonicalize, hs, if_pos rfl]
  · intro items ih h
    have hitems := (everywhere_arr.mp h).2
    rw [stored, Jobs.dumps, canonicalize, dumpsItems_stored fun v hv => ih v hv (hitems v hv)]
  · intro fields ih h
    obtain ⟨⟨hnodup, hascii⟩, hfields⟩ := everywhere_obj.mp h
    rw [stored, Jobs.dumps, canonicalize,
      dumpsFields_stored hascii fun f hf => ih f hf (hfields f hf)]
    -- Only the sorts are left to compare.
    cases hms : canonicalFields fields with
    | none => rfl
    | some ms =>
      have hkeys := map_fst_canonicalFields hms
      have hms : ∀ m ∈ ms, isAscii m.1 = true := by
        intro m hm
        have hmem : m.1 ∈ fields.map Prod.fst := hkeys ▸ List.mem_map_of_mem hm
        obtain ⟨f, hf, hfm⟩ := List.mem_map.mp hmem
        exact hfm ▸ hascii f hf
      rw [Option.map_some, Option.map_some, mergeSort_keyLe (hkeys ▸ hnodup) hms]

/-- So are the digests. -/
theorem digest_stored (P : Platform) {v : Value} (h : Plain v) :
    Jobs.digest P (stored v) = digest P v := by
  rw [Jobs.digest, dumps_stored h, digest]

theorem canonicalItems_isSome {items : List Value} (h : ∀ v ∈ items, (canonicalize v).isSome) :
    (canonicalItems items).isSome := by
  induction items with
  | nil => rfl
  | cons v vs ih =>
    obtain ⟨hv, hvs⟩ := List.forall_mem_cons.mp h
    obtain ⟨t, ht⟩ := Option.isSome_iff_exists.mp hv
    obtain ⟨ts, hts⟩ := Option.isSome_iff_exists.mp (ih hvs)
    simp [canonicalItems, ht, hts]

theorem canonicalFields_isSome {fields : List (Text × Value)}
    (h : ∀ f ∈ fields, (canonicalize f.2).isSome) : (canonicalFields fields).isSome := by
  induction fields with
  | nil => rfl
  | cons f fs ih =>
    obtain ⟨hf, hfs⟩ := List.forall_mem_cons.mp h
    obtain ⟨t, ht⟩ := Option.isSome_iff_exists.mp hf
    obtain ⟨ts, hts⟩ := Option.isSome_iff_exists.mp (ih hfs)
    simp [canonicalFields, ht, hts]

/-- A plain value has a canonical text. -/
theorem canonicalize_isSome {v : Value} : Plain v → (canonicalize v).isSome := by
  refine Value.induct v ?_ ?_ ?_ ?_ ?_ ?_ ?_
  · intro h
    exact h.here.elim
  · intro _
    rfl
  · intro b _
    rfl
  · intro x h
    exact h.here.elim
  · intro s _
    rfl
  · intro items ih h
    rw [canonicalize, Option.isSome_map]
    exact canonicalItems_isSome fun v hv => ih v hv ((everywhere_arr.mp h).2 v hv)
  · intro fields ih h
    rw [canonicalize, Option.isSome_map]
    exact canonicalFields_isSome fun f hf => ih f hf ((everywhere_obj.mp h).2 f hf)

end Control
