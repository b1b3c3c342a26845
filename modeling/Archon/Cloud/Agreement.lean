/-
# One canonical text in two languages

What the control function digests, the worker digests again, and neither sends its text: the texts have to
be the same.  `canonicalize` sorts the keys of an object by code units, for that is how JavaScript orders
texts, and `json.dumps` by code points.  The two orders differ where one key has a surrogate and the other
a unit from `U+E000` on; everything else the two write alike, numbers and escapes included.  So the texts
are the same exactly where the orders agree on the keys of every object (`canonical_texts_iff`).

The envelope of a mutation is restricted to printable ASCII in both languages.  Both accept the same
values, on these the orders agree, and the text determines the value.
-/
import Archon.Cloud.Offered
import Archon.Ecma.Integer
import Archon.Ecma.Printing

namespace Cloud

open Ecma Ecma.Value Remediation
open Jobs (Py)

/-! ## 1. A value in the other language -/

/-- The integer that a safe number denotes. -/
def intOf : Number → Int
  | .finite x =>
    let n : Nat := x.man * 2 ^ x.exp.toNat / 2 ^ (-x.exp).toNat
    if x.neg then -n else n
  | _ => 0

mutual

/-- The Python value of a JSON value, as `json.loads` gives it. -/
def parsed : Value → Py
  | .undefined => .none
  | .null => .none
  | .bool b => .bool b
  | .num x => .int (intOf x)
  | .str s => .str s
  | .arr items => .list (parsedItems items)
  | .obj fields => .dict (parsedFields fields)

/-- The elements of an array. -/
def parsedItems : List Value → List Py
  | [] => []
  | v :: vs => parsed v :: parsedItems vs

/-- The members of an object. -/
def parsedFields : List (Text × Value) → List (Text × Py)
  | [] => []
  | (k, v) :: fs => (k, parsed v) :: parsedFields fs

end

/-- A node of a value that both languages have. -/
def CommonNode : Value → Prop
  | .undefined => False
  | .num x => Control.isSafeInteger x = true
  | .str s => Jobs.encodable s = true
  | .obj fields => (fields.map Prod.fst).Nodup ∧ ∀ f ∈ fields, Jobs.encodable f.1 = true
  | _ => True

instance : DecidablePred CommonNode
  | .undefined => inferInstanceAs (Decidable False)
  | .num x => inferInstanceAs (Decidable (Control.isSafeInteger x = true))
  | .str s => inferInstanceAs (Decidable (Jobs.encodable s = true))
  | .obj fields => inferInstanceAs (Decidable ((fields.map Prod.fst).Nodup ∧
      ∀ f ∈ fields, Jobs.encodable f.1 = true))
  | .null | .bool _ | .arr _ => inferInstanceAs (Decidable True)

/-- Well-formed texts, booleans, null, safe integers, lists and objects. -/
def Common (v : Value) : Prop := Everywhere CommonNode v

instance : DecidablePred Common := fun v => inferInstanceAs (Decidable (Everywhere CommonNode v))

/-! ## 2. Numbers -/

theorem magnitude_eq {x : Binary64} (h : Control.isSafeInteger (.finite x) = true) :
    x.magnitude = (x.man * 2 ^ x.exp.toNat / 2 ^ (-x.exp).toNat : Nat)
      ∧ x.man * 2 ^ x.exp.toNat / 2 ^ (-x.exp).toNat < 2 ^ 53 := by
  simp only [Control.isSafeInteger, Bool.and_eq_true, decide_eq_true_eq] at h
  obtain ⟨hdvd, hlt⟩ := h
  refine ⟨?_, hlt⟩
  obtain ⟨c, hc⟩ := Nat.dvd_of_mod_eq_zero hdvd
  rw [hc, Nat.mul_div_cancel_left c (pow_pos (by decide) _), Binary64.magnitude]
  have hq : (x.man : ℚ) * 2 ^ x.exp.toNat = 2 ^ (-x.exp).toNat * c := by exact_mod_cast hc
  rcases le_total 0 x.exp with hexp | hexp
  · obtain ⟨k, hk⟩ := Int.eq_ofNat_of_zero_le hexp
    rw [hk] at hq ⊢
    simpa using hq
  · obtain ⟨k, hk⟩ := Int.eq_ofNat_of_zero_le (a := -x.exp) (by omega)
    have hneg : x.exp = -(k : Int) := by omega
    rw [hneg] at hq ⊢
    rw [zpow_neg, zpow_natCast, mul_inv_eq_iff_eq_mul₀ (by positivity), mul_comm]
    simpa using hq

/-- **A safe integer has one numeral.** -/
theorem intText_intOf {x : Number} (h : Control.isSafeInteger x = true) :
    x.isFinite = true ∧ Jobs.intText (intOf x) = x.normZero.text := by
  cases x with
  | nan => cases h
  | infinity neg => cases h
  | finite x =>
    refine ⟨rfl, ?_⟩
    obtain ⟨hmag, hlt⟩ := magnitude_eq h
    rw [text_normZero, intOf]
    generalize x.man * 2 ^ x.exp.toNat / 2 ^ (-x.exp).toNat = n at hmag hlt
    rcases Nat.eq_zero_or_pos n with rfl | hpos
    · have hman : x.man = 0 := by
        have hpow : (2 : ℚ) ^ x.exp ≠ 0 := by positivity
        have hzero : (x.man : ℚ) * 2 ^ x.exp = 0 := by
          rw [← Binary64.magnitude, hmag, Nat.cast_zero]
        exact_mod_cast (mul_eq_zero.mp hzero).resolve_right hpow
      rw [Number.text, if_pos hman]
      cases x.neg <;> decide
    · rw [text_of_magnitude hmag hpos hlt]
      cases x.neg with
      | true =>
        rw [if_pos rfl, Jobs.intText, if_pos (by omega), Int.natAbs_neg, Int.natAbs_natCast]
        rfl
      | false =>
        rw [if_neg (by decide), Jobs.intText, if_neg (by omega), Int.natAbs_natCast]
        rfl

/-! ## 3. The two orders of keys -/

/-- The units of a code point. -/
def unitsOf (c : Nat) : Text :=
  if c < 0x10000 then [UInt16.ofNat c]
  else [UInt16.ofNat (0xD800 + (c - 0x10000) / 0x400), UInt16.ofNat (0xDC00 + (c - 0x10000) % 0x400)]

theorem unitsOf_toNat (u : UInt16) : unitsOf u.toNat = [u] := by
  rw [unitsOf, if_pos u.toNat_lt, UInt16.ofNat_toNat]

/-- A text is made of its code points. -/
theorem flatMap_unitsOf : ∀ t : Text, (Jobs.codePoints t).flatMap unitsOf = t
  | [] => rfl
  | [u] => by
    rw [Jobs.codePoints, List.flatMap_cons, unitsOf_toNat]
    rfl
  | u :: v :: t => by
    rw [Jobs.codePoints]
    split
    · rename_i hpair
      rw [Bool.and_eq_true] at hpair
      simp only [isHigh, isLow, Bool.and_eq_true, decide_eq_true_eq, UInt16.le_iff_toNat_le,
        UInt16.reduceToNat] at hpair
      rw [List.flatMap_cons, flatMap_unitsOf t, unitsOf, if_neg (by omega)]
      have hhigh : UInt16.ofNat (0xD800 + (0x10000 + (u.toNat - 0xD800) * 0x400 + (v.toNat - 0xDC00)
          - 0x10000) / 0x400) = u := by
        rw [← UInt16.toNat_inj, Jobs.toNat_ofNat_unit (by omega)]
        omega
      have hlow : UInt16.ofNat (0xDC00 + (0x10000 + (u.toNat - 0xD800) * 0x400 + (v.toNat - 0xDC00)
          - 0x10000) % 0x400) = v := by
        rw [← UInt16.toNat_inj, Jobs.toNat_ofNat_unit (by omega)]
        omega
      rw [hhigh, hlow]
      rfl
    · rw [List.flatMap_cons, flatMap_unitsOf (v :: t), unitsOf_toNat]
      rfl

/-- The order of `sort_keys=True`. -/
def codePointLe (s t : Text) : Bool := Jobs.codePoints s ≤ Jobs.codePoints t

theorem keyOrder_codeUnit : KeyOrder codeUnitLe where
  total s t := Bool.or_eq_true _ _ ▸ codeUnitLe_total s t
  trans _ _ _ := codeUnitLe_trans
  antisymm _ _ := codeUnitLe_antisymm

theorem keyOrder_codePoint : KeyOrder codePointLe where
  total s t := by
    rw [Bool.or_eq_true, codePointLe, codePointLe, decide_eq_true_eq, decide_eq_true_eq]
    exact le_total _ _
  trans r s t hrs hst := by
    rw [codePointLe, decide_eq_true_eq] at *
    exact le_trans hrs hst
  antisymm s t hst hts := by
    rw [codePointLe, decide_eq_true_eq] at hst hts
    rw [← flatMap_unitsOf s, le_antisymm hst hts, flatMap_unitsOf]

/-! ## 4. The two texts -/

theorem Common.keyed {v : Value} (h : Common v) : Keyed v :=
  h.imp fun u hu => by
    cases u with
    | obj fields => exact hu.1
    | _ => trivial

theorem Common.written {v : Value} (h : Common v) : Value.Written v :=
  h.imp fun u hu => by
    cases u with
    | undefined => exact hu
    | num x => exact (intText_intOf hu).1
    | _ => trivial

/-- What is arranged is printed as it is. -/
theorem written_arranged (le : Text → Text → Bool) {v : Value} : Value.Written v →
    Value.Written (arranged le v) ∧ printed (arranged le v) = arranged le v := by
  refine Value.induct v ?_ ?_ ?_ ?_ ?_ ?_ ?_
  · intro h
    exact h.here.elim
  · intro _
    exact ⟨trivial, rfl⟩
  · intro b _
    exact ⟨trivial, rfl⟩
  · intro x h
    have hx : x.normZero.isFinite = true := by rw [isFinite_normZero]; exact h.here
    exact ⟨hx, by rw [arranged, printed, if_pos hx, normZero_idem]⟩
  · intro s _
    exact ⟨trivial, rfl⟩
  · intro items ih h
    have hitems := (everywhere_arr.mp h).2
    rw [arranged_arr]
    refine ⟨everywhere_arr.mpr ⟨trivial, ?_⟩, ?_⟩
    · intro w hw
      obtain ⟨v, hv, rfl⟩ := List.mem_map.mp hw
      exact (ih v hv (hitems v hv)).1
    · rw [printed_arr, List.map_map]
      exact congrArg Value.arr (List.map_congr_left fun v hv => (ih v hv (hitems v hv)).2)
  · intro fields ih h
    have hfields := (everywhere_obj.mp h).2
    have hmem : ∀ {f}, f ∈ inOrder le fields → f ∈ fields := fun hf => (inOrder_perm fields).mem_iff.mp hf
    rw [arranged_obj]
    refine ⟨everywhere_obj.mpr ⟨trivial, ?_⟩, ?_⟩
    · intro g hg
      obtain ⟨f, hf, rfl⟩ := List.mem_map.mp hg
      exact (ih f (hmem hf) (hfields f (hmem hf))).1
    · rw [printed_obj, List.map_map]
      refine congrArg Value.obj (List.map_congr_left fun f hf => ?_)
      exact congrArg (Prod.mk f.1) (ih f (hmem hf) (hfields f (hmem hf))).2

theorem canonicalItems_written {items : List Value}
    (h : ∀ v ∈ items, Control.canonicalize v = stringify (arranged codeUnitLe v))
    (hwritten : ∀ v ∈ items, Value.Written v) :
    Control.canonicalItems items = some (items.map fun v => Value.written (arranged codeUnitLe v)) := by
  induction items with
  | nil => rfl
  | cons v vs ih =>
    obtain ⟨hv, hvs⟩ := List.forall_mem_cons.mp h
    obtain ⟨hw, hws⟩ := List.forall_mem_cons.mp hwritten
    rw [Control.canonicalItems, hv, ih hvs hws, stringify_written (written_arranged codeUnitLe hw).1]
    rfl

theorem canonicalFields_written {fields : List (Text × Value)}
    (h : ∀ f ∈ fields, Control.canonicalize f.2 = stringify (arranged codeUnitLe f.2))
    (hwritten : ∀ f ∈ fields, Value.Written f.2) :
    Control.canonicalFields fields
      = some (fields.map fun f => (f.1, Value.written (arranged codeUnitLe f.2))) := by
  induction fields with
  | nil => rfl
  | cons f fs ih =>
    obtain ⟨hv, hvs⟩ := List.forall_mem_cons.mp h
    obtain ⟨hw, hws⟩ := List.forall_mem_cons.mp hwritten
    rw [Control.canonicalFields, hv, ih hvs hws, stringify_written (written_arranged codeUnitLe hw).1]
    rfl

/-- The text of the members that stand in an order. -/
theorem stringify_arranged_obj {le : Text → Text → Bool} {fields : List (Text × Value)}
    (h : ∀ f ∈ fields, Value.Written f.2) : stringify (arranged le (.obj fields))
      = some (0x7B :: (commaSep ((inOrder le (fields.map fun f => (f.1, Value.written (arranged le f.2)))).map
        fun m => quote m.1 ++ 0x3A :: m.2) ++ [0x7D])) := by
  have hobj : Value.Written (.obj fields) := everywhere_obj.mpr ⟨trivial, h⟩
  have hmembers : ∀ g ∈ (inOrder le fields).map fun f => (f.1, arranged le f.2), Value.Written g.2 := by
    have hall := (written_arranged le hobj).1
    rw [arranged_obj] at hall
    exact (everywhere_obj.mp hall).2
  rw [stringify_written (written_arranged le hobj).1, arranged_obj, written_obj hmembers,
    inOrder_map (fun v => Value.written (arranged le v)), List.map_map, List.map_map]
  rfl

theorem stringify_arranged_arr {le : Text → Text → Bool} {items : List Value}
    (h : ∀ v ∈ items, Value.Written v) : stringify (arranged le (.arr items))
      = some (0x5B :: (commaSep (items.map fun v => Value.written (arranged le v)) ++ [0x5D])) := by
  have harr : Value.Written (.arr items) := everywhere_arr.mpr ⟨trivial, h⟩
  rw [stringify_written (written_arranged le harr).1, arranged_arr, written_arr, List.map_map]
  rfl

/-- **The canonical text of the control function** is the one of the value, arranged by code units. -/
theorem canonicalize_eq {v : Value} : Value.Written v → Keyed v →
    Control.canonicalize v = stringify (arranged codeUnitLe v) := by
  refine Value.induct v ?_ ?_ ?_ ?_ ?_ ?_ ?_
  · intro h _
    exact h.here.elim
  · intro _ _
    rfl
  · intro b _ _
    rfl
  · intro x h _
    have hx : x.isFinite = true := h.here
    rw [Control.canonicalize, if_pos hx, arranged, stringify, isFinite_normZero, if_pos hx]
  · intro s _ _
    rfl
  · intro items ih h hkeyed
    have hitems := (everywhere_arr.mp h).2
    have hkeys := (everywhere_arr.mp hkeyed).2
    rw [Control.canonicalize, canonicalItems_written (fun v hv => ih v hv (hitems v hv) (hkeys v hv)) hitems,
      stringify_arranged_arr hitems]
    rfl
  · intro fields ih h hkeyed
    have hfields := (everywhere_obj.mp h).2
    have hkeys := (everywhere_obj.mp hkeyed).2
    have hsort : sortKeys (fields.map fun f => (f.1, Value.written (arranged codeUnitLe f.2)))
        = inOrder codeUnitLe (fields.map fun f => (f.1, Value.written (arranged codeUnitLe f.2))) := by
      refine (keyOrder_codeUnit.inOrder_eq ?_ (sortKeys_perm _).symm
        (List.pairwise_insertionSort KeyLe _)).symm
      rw [List.map_map]
      exact hkeyed.nodup
    rw [Control.canonicalize,
      canonicalFields_written (fun f hf => ih f hf (hfields f hf) (hkeys f hf)) hfields,
      stringify_arranged_obj hfields, Option.map_some, hsort]

theorem dumpsItems_parsed {items : List Value}
    (h : ∀ v ∈ items, Jobs.dumps (parsed v) = stringify (arranged codePointLe v))
    (hwritten : ∀ v ∈ items, Value.Written v) :
    Jobs.dumpsItems (parsedItems items) = some (items.map fun v => Value.written (arranged codePointLe v)) := by
  induction items with
  | nil => rfl
  | cons v vs ih =>
    obtain ⟨hv, hvs⟩ := List.forall_mem_cons.mp h
    obtain ⟨hw, hws⟩ := List.forall_mem_cons.mp hwritten
    rw [parsedItems, Jobs.dumpsItems, hv, ih hvs hws,
      stringify_written (written_arranged codePointLe hw).1]
    rfl

theorem dumpsFields_parsed {fields : List (Text × Value)}
    (hkeys : ∀ f ∈ fields, Jobs.encodable f.1 = true)
    (h : ∀ f ∈ fields, Jobs.dumps (parsed f.2) = stringify (arranged codePointLe f.2))
    (hwritten : ∀ f ∈ fields, Value.Written f.2) :
    Jobs.dumpsFields (parsedFields fields)
      = some (fields.map fun f => (f.1, Value.written (arranged codePointLe f.2))) := by
  induction fields with
  | nil => rfl
  | cons f fs ih =>
    obtain ⟨hk, hks⟩ := List.forall_mem_cons.mp hkeys
    obtain ⟨hv, hvs⟩ := List.forall_mem_cons.mp h
    obtain ⟨hw, hws⟩ := List.forall_mem_cons.mp hwritten
    rw [parsedFields, Jobs.dumpsFields, hk, if_pos rfl, hv, ih hks hvs hws,
      stringify_written (written_arranged codePointLe hw).1]
    rfl

/-- **The canonical text of the worker** is the one of the value, arranged by code points. -/
theorem dumps_parsed {v : Value} : Common v →
    Jobs.dumps (parsed v) = stringify (arranged codePointLe v) := by
  refine Value.induct v ?_ ?_ ?_ ?_ ?_ ?_ ?_
  · intro h
    exact h.here.elim
  · intro _
    rw [parsed, Jobs.dumps]
    rfl
  · intro b _
    rw [parsed, Jobs.dumps]
    rfl
  · intro x h
    obtain ⟨hx, htext⟩ := intText_intOf h.here
    rw [parsed, Jobs.dumps, htext, arranged, stringify, isFinite_normZero, if_pos hx]
  · intro s h
    have hs : Jobs.encodable s = true := h.here
    rw [parsed, Jobs.dumps, if_pos hs]
    rfl
  · intro items ih h
    have hitems := (everywhere_arr.mp h).2
    have hwritten : ∀ v ∈ items, Value.Written v := fun v hv =>
      Common.written (hitems v hv)
    rw [parsed, Jobs.dumps, dumpsItems_parsed (fun v hv => ih v hv (hitems v hv)) hwritten,
      stringify_arranged_arr hwritten]
    rfl
  · intro fields ih h
    obtain ⟨⟨-, hkeys⟩, hfields⟩ := everywhere_obj.mp h
    have hwritten : ∀ f ∈ fields, Value.Written f.2 := fun f hf =>
      Common.written (hfields f hf)
    rw [parsed, Jobs.dumps, dumpsFields_parsed hkeys (fun f hf => ih f hf (hfields f hf)) hwritten,
      stringify_arranged_obj hwritten]
    rfl

/-- **The texts of a value are the same exactly where the orders agree on its keys.** -/
theorem canonical_texts_iff {v : Value} (h : Common v) :
    Jobs.dumps (parsed v) = Control.canonicalize v ↔ OrdersAgree codeUnitLe codePointLe v := by
  have hunit := written_arranged codeUnitLe h.written
  have hpoint := written_arranged codePointLe h.written
  rw [dumps_parsed h, canonicalize_eq h.written h.keyed,
    ← arranged_eq_iff keyOrder_codeUnit keyOrder_codePoint h.keyed]
  constructor
  · intro heq
    rw [← hunit.2, ← hpoint.2]
    exact stringify_inj hunit.1 hpoint.1 heq.symm
  · intro heq
    rw [heq]

/-! ## 5. Envelopes -/

/-- A safe integer is one in both languages. -/
theorem intOf_bounds {x : Number} (h : Control.isSafeInteger x = true) :
    (-(2 ^ 53 - 1) ≤ intOf x && intOf x ≤ 2 ^ 53 - 1) = true := by
  cases x with
  | nan => cases h
  | infinity neg => cases h
  | finite x =>
    obtain ⟨-, hlt⟩ := magnitude_eq h
    rw [intOf, Bool.and_eq_true, decide_eq_true_eq, decide_eq_true_eq]
    generalize x.man * 2 ^ x.exp.toNat / 2 ^ (-x.exp).toNat = n at hlt
    split
    · omega
    · omega

/-- Every safe integer of Python is a number of JavaScript. -/
theorem exists_intOf {n : Int} (h : (-(2 ^ 53 - 1) ≤ n && n ≤ 2 ^ 53 - 1) = true) :
    ∃ x, Control.isSafeInteger x = true ∧ intOf x = n := by
  rw [Bool.and_eq_true, decide_eq_true_eq, decide_eq_true_eq] at h
  obtain ⟨x, -, -, hmag⟩ := Binary64.ofMagnitude_natCast (n := n.natAbs) (by omega)
  have hnat : x.man * 2 ^ x.exp.toNat = n.natAbs * 2 ^ (-x.exp).toNat := by
    rw [Binary64.magnitude] at hmag
    rcases le_total 0 x.exp with hexp | hexp
    · obtain ⟨k, hk⟩ := Int.eq_ofNat_of_zero_le hexp
      rw [hk] at hmag ⊢
      rw [zpow_natCast] at hmag
      simpa using (by exact_mod_cast hmag : x.man * 2 ^ k = n.natAbs)
    · obtain ⟨k, hk⟩ := Int.eq_ofNat_of_zero_le (a := -x.exp) (by omega)
      have hneg : x.exp = -(k : Int) := by omega
      rw [hneg] at hmag ⊢
      rw [zpow_neg, zpow_natCast, mul_inv_eq_iff_eq_mul₀ (by positivity)] at hmag
      simpa using (by exact_mod_cast hmag : x.man = n.natAbs * 2 ^ k)
  have hscale : 0 < 2 ^ (-x.exp).toNat := pow_pos (by decide) _
  refine ⟨.finite { x with neg := decide (n < 0) }, ?_, ?_⟩
  · rw [Control.isSafeInteger]
    dsimp only
    rw [hnat, Nat.mul_mod_left, Nat.mul_div_cancel _ hscale, Bool.and_eq_true, decide_eq_true_eq,
      decide_eq_true_eq]
    exact ⟨rfl, by omega⟩
  · rw [intOf]
    dsimp only
    rw [hnat, Nat.mul_div_cancel _ hscale]
    by_cases hn : n < 0
    · rw [decide_eq_true hn, if_pos rfl]
      omega
    · rw [decide_eq_false hn, if_neg Bool.false_ne_true]
      omega

theorem bind_unit_eq_ok {x : Except Rejection Unit} {α : Type} {y : Except Rejection α} {a : α} :
    (x >>= fun _ => y) = .ok a ↔ x = .ok () ∧ y = .ok a := by
  rw [bind_eq_ok]
  constructor
  · rintro ⟨⟨⟩, hx, hy⟩
    exact ⟨hx, hy⟩
  · rintro ⟨hx, hy⟩
    exact ⟨(), hx, hy⟩

theorem validateCanonicalItems_parsed {items : List Value} {depth : Nat}
    (h : ∀ v ∈ items, (Control.printable v depth = true
      ↔ validateCanonicalValue (parsed v) depth = .ok ())) :
    Control.printableItems items depth = true
      ↔ validateCanonicalItems (parsedItems items) depth = .ok () := by
  induction items with
  | nil => simp [Control.printableItems, parsedItems, validateCanonicalItems]
  | cons v vs ih =>
    obtain ⟨hv, hvs⟩ := List.forall_mem_cons.mp h
    rw [Control.printableItems, parsedItems, validateCanonicalItems, Bool.and_eq_true, hv, ih hvs,
      bind_unit_eq_ok]

theorem validateCanonicalFields_parsed {fields : List (Text × Value)} {depth : Nat}
    (h : ∀ f ∈ fields, (Control.printable f.2 depth = true
      ↔ validateCanonicalValue (parsed f.2) depth = .ok ())) :
    Control.printableFields fields depth = true
      ↔ validateCanonicalFields (parsedFields fields) depth = .ok () := by
  induction fields with
  | nil => simp [Control.printableFields, parsedFields, validateCanonicalFields]
  | cons f fs ih =>
    obtain ⟨hv, hvs⟩ := List.forall_mem_cons.mp h
    rw [Control.printableFields, parsedFields, validateCanonicalFields, Bool.and_eq_true,
      Bool.and_eq_true, hv, ih hvs, bind_unit_eq_ok, bind_unit_eq_ok, demand_eq_ok, and_assoc]
    rfl

/-- **The two validators accept the same values.** -/
theorem printable_iff {v : Value} : Common v → ∀ depth, Control.printable v depth = true
    ↔ validateCanonicalValue (parsed v) depth = .ok () := by
  refine Value.induct v ?_ ?_ ?_ ?_ ?_ ?_ ?_
  · intro h
    exact h.here.elim
  · intro _ depth
    rw [Control.printable, parsed, validateCanonicalValue]
    simp
  · intro b _ depth
    rw [Control.printable, parsed, validateCanonicalValue]
    simp
  · intro x h depth
    have hsafe : Control.isSafeInteger x = true := h.here
    rw [Control.printable, parsed, validateCanonicalValue, hsafe, intOf_bounds hsafe]
    simp [bind_unit_eq_ok]
  · intro s _ depth
    rw [Control.printable, parsed, validateCanonicalValue]
    simp [bind_unit_eq_ok, Control.isAscii]
  · intro items ih h depth
    have hitems := (everywhere_arr.mp h).2
    rw [Control.printable, parsed, validateCanonicalValue, Bool.and_eq_true,
      validateCanonicalItems_parsed fun v hv => ih v hv (hitems v hv) (depth + 1)]
    simp [bind_unit_eq_ok]
  · intro fields ih h depth
    have hfields := (everywhere_obj.mp h).2
    rw [Control.printable, parsed, validateCanonicalValue, Bool.and_eq_true,
      validateCanonicalFields_parsed fun f hf => ih f hf (hfields f hf) (depth + 1)]
    simp [bind_unit_eq_ok]

mutual

/-- Every value of Python that is accepted is one of JavaScript. -/
theorem exists_parsed : ∀ {p : Py} {depth : Nat}, validateCanonicalValue p depth = .ok () →
    ∃ v, parsed v = p ∧ Control.printable v depth = true
  | .none, depth, h => by
    rw [validateCanonicalValue] at h
    refine ⟨.null, by rw [parsed], ?_⟩
    rw [Control.printable]
    simpa [bind_eq_ok] using h
  | .bool b, depth, h => by
    rw [validateCanonicalValue] at h
    refine ⟨.bool b, by rw [parsed], ?_⟩
    rw [Control.printable]
    simpa [bind_eq_ok] using h
  | .int n, depth, h => by
    rw [validateCanonicalValue] at h
    obtain ⟨_, hdepth, h⟩ := bind_eq_ok.mp h
    obtain ⟨x, hx, hn⟩ := exists_intOf (demand_eq_ok.mp h)
    refine ⟨.num x, by rw [parsed, hn], ?_⟩
    rw [Control.printable, Bool.and_eq_true]
    exact ⟨demand_eq_ok.mp hdepth, hx⟩
  | .float _ _, depth, h => by
    rw [validateCanonicalValue] at h
    obtain ⟨_, -, h⟩ := bind_eq_ok.mp h
    cases h
  | .decimal _, depth, h => by
    rw [validateCanonicalValue] at h
    obtain ⟨_, -, h⟩ := bind_eq_ok.mp h
    cases h
  | .str t, depth, h => by
    rw [validateCanonicalValue] at h
    obtain ⟨_, hdepth, h⟩ := bind_eq_ok.mp h
    refine ⟨.str t, by rw [parsed], ?_⟩
    rw [Control.printable, Bool.and_eq_true]
    exact ⟨demand_eq_ok.mp hdepth, demand_eq_ok.mp h⟩
  | .list items, depth, h => by
    rw [validateCanonicalValue] at h
    obtain ⟨_, hdepth, h⟩ := bind_eq_ok.mp h
    obtain ⟨vs, hvs, hprint⟩ := exists_parsedItems h
    refine ⟨.arr vs, by rw [parsed, hvs], ?_⟩
    rw [Control.printable, Bool.and_eq_true]
    exact ⟨demand_eq_ok.mp hdepth, hprint⟩
  | .dict fields, depth, h => by
    rw [validateCanonicalValue] at h
    obtain ⟨_, hdepth, h⟩ := bind_eq_ok.mp h
    obtain ⟨fs, hfs, hprint⟩ := exists_parsedFields h
    refine ⟨.obj fs, by rw [parsed, hfs], ?_⟩
    rw [Control.printable, Bool.and_eq_true]
    exact ⟨demand_eq_ok.mp hdepth, hprint⟩

/-- The elements of a list. -/
theorem exists_parsedItems : ∀ {ps : List Py} {depth : Nat}, validateCanonicalItems ps depth = .ok () →
    ∃ vs, parsedItems vs = ps ∧ Control.printableItems vs depth = true
  | [], _, _ => ⟨[], rfl, rfl⟩
  | p :: ps, depth, h => by
    rw [validateCanonicalItems] at h
    obtain ⟨_, hp, h⟩ := bind_eq_ok.mp h
    obtain ⟨v, hv, hprint⟩ := exists_parsed hp
    obtain ⟨vs, hvs, hprints⟩ := exists_parsedItems h
    exact ⟨v :: vs, by rw [parsedItems, hv, hvs], by rw [Control.printableItems, hprint, hprints]; rfl⟩

/-- The members of a dict. -/
theorem exists_parsedFields : ∀ {fs : List (Text × Py)} {depth : Nat},
    validateCanonicalFields fs depth = .ok () →
    ∃ gs, parsedFields gs = fs ∧ Control.printableFields gs depth = true
  | [], _, _ => ⟨[], rfl, rfl⟩
  | (k, p) :: fs, depth, h => by
    rw [validateCanonicalFields] at h
    obtain ⟨_, hk, h⟩ := bind_eq_ok.mp h
    obtain ⟨_, hp, h⟩ := bind_eq_ok.mp h
    obtain ⟨v, hv, hprint⟩ := exists_parsed hp
    obtain ⟨gs, hgs, hprints⟩ := exists_parsedFields h
    refine ⟨(k, v) :: gs, by rw [parsedFields, hv, hgs], ?_⟩
    have hascii : (!k.isEmpty && Control.isAscii k) = true := demand_eq_ok.mp hk
    rw [Control.printableFields, hascii, hprint, hprints]
    rfl

end

/-- What JavaScript accepts, Python has too. -/
theorem common_of_printable {v : Value} : Keyed v → ∀ {depth}, Control.printable v depth = true →
    Common v ∧ OrdersAgree codeUnitLe codePointLe v := by
  refine Value.induct v ?_ ?_ ?_ ?_ ?_ ?_ ?_
  · intro _ depth h
    rw [Control.printable, Bool.and_false] at h
    cases h
  · intro _ depth _
    exact ⟨trivial, trivial⟩
  · intro b _ depth _
    exact ⟨trivial, trivial⟩
  · intro x _ depth h
    rw [Control.printable, Bool.and_eq_true] at h
    exact ⟨h.2, trivial⟩
  · intro s _ depth h
    rw [Control.printable, Bool.and_eq_true] at h
    exact ⟨Control.encodable_of_isAscii h.2, trivial⟩
  · intro items ih hkeyed depth h
    have hkeys := (everywhere_arr.mp hkeyed).2
    rw [Control.printable, Bool.and_eq_true] at h
    have hall := fun v hv => ih v hv (hkeys v hv) (printableItems_iff.mp h.2 v hv)
    exact ⟨everywhere_arr.mpr ⟨trivial, fun v hv => (hall v hv).1⟩,
      everywhere_arr.mpr ⟨trivial, fun v hv => (hall v hv).2⟩⟩
  · intro fields ih hkeyed depth h
    have hkeys := (everywhere_obj.mp hkeyed).2
    rw [Control.printable, Bool.and_eq_true] at h
    have hfields := printableFields_iff.mp h.2
    have hall := fun f hf => ih f hf (hkeys f hf) (hfields f hf).2.2
    have hascii : ∀ s ∈ fields.map Prod.fst, Control.isAscii s = true := by
      intro s hs
      obtain ⟨f, hf, rfl⟩ := List.mem_map.mp hs
      exact (hfields f hf).2.1
    refine ⟨everywhere_obj.mpr ⟨⟨hkeyed.nodup, fun f hf => ?_⟩, fun f hf => (hall f hf).1⟩,
      everywhere_obj.mpr ⟨fun s hs t ht => ?_, fun f hf => (hall f hf).2⟩⟩
    · exact Control.encodable_of_isAscii (hfields f hf).2.1
    · rw [Bool.eq_iff_iff, codePointLe, decide_eq_true_eq, Control.codePoints_ascii (hascii s hs),
        Control.codePoints_ascii (hascii t ht), Control.map_toNat_le]

/-- **An envelope has one text in both languages.** -/
theorem canonicalMutationEnvelope_iff {v : Value} (h : Common v) {t : Text} :
    Control.canonicalMutationEnvelope v = some t ↔ canonicalMutationJson (parsed v) = .ok t := by
  have hvalid := printable_iff h 0
  rw [Control.canonicalMutationEnvelope, canonicalMutationJson, bind_unit_eq_ok, ← hvalid]
  by_cases hprint : Control.printable v 0 = true
  · have htexts := (canonical_texts_iff h).mpr (common_of_printable h.keyed hprint).2
    rw [if_pos hprint, htexts]
    cases Control.canonicalize v with
    | none => simp
    | some u => simp [pure, Except.pure, hprint]
  · rw [if_neg hprint]
    simp [hprint]

/-- **The text of an envelope determines it.** -/
theorem envelope_inj {v w : Value} (hv : Keyed v) (hw : Keyed w) {t : Text}
    (h : Control.canonicalMutationEnvelope v = some t) (h' : Control.canonicalMutationEnvelope w = some t) :
    Same v w := by
  rw [Control.canonicalMutationEnvelope] at h h'
  split at h
  case isFalse => cases h
  case isTrue hprint =>
    split at h'
    case isFalse => cases h'
    case isTrue hprint' =>
      have hwritten := (common_of_printable hv hprint).1.written
      have hwritten' := (common_of_printable hw hprint').1.written
      obtain ⟨harranged, heq⟩ := written_arranged codeUnitLe hwritten
      obtain ⟨harranged', heq'⟩ := written_arranged codeUnitLe hwritten'
      rw [canonicalize_eq hwritten hv] at h
      rw [canonicalize_eq hwritten' hw, ← h] at h'
      rw [← arranged_eq_iff_same keyOrder_codeUnit hv hw, ← heq, ← heq']
      exact stringify_inj harranged harranged' h'.symm

/-! ## 6. Digests -/

/-- **What the two languages digest.**  A value that both have is written with the same bytes exactly
where the two orders agree on the keys of each of its objects, and then its digests agree.  Both
validators of envelopes accept the same values, write them alike, and tell them apart. -/
theorem canonical_bytes {v w : Value} (hv : Common v) (hw : Common w) :
    (Jobs.dumps (parsed v) = Control.canonicalize v ↔ OrdersAgree codeUnitLe codePointLe v)
      ∧ (OrdersAgree codeUnitLe codePointLe v →
        ∀ P : Platform, Jobs.digest P (parsed v) = Control.digest P v)
      ∧ (∀ t, Control.canonicalMutationEnvelope v = some t ↔ canonicalMutationJson (parsed v) = .ok t)
      ∧ (∀ u t, Keyed u → Control.canonicalMutationEnvelope u = some t → Common u)
      ∧ (∀ p t, canonicalMutationJson p = .ok t →
        ∃ u, parsed u = p ∧ Control.printable u 0 = true)
      ∧ ∀ t, Control.canonicalMutationEnvelope v = some t → Control.canonicalMutationEnvelope w = some t →
        Same v w := by
  refine ⟨canonical_texts_iff hv, ?_, fun t => canonicalMutationEnvelope_iff hv, ?_, ?_,
    fun t => envelope_inj hv.keyed hw.keyed⟩
  · intro hagree P
    rw [Jobs.digest, (canonical_texts_iff hv).mpr hagree, Control.digest]
  · intro u t hu h
    rw [Control.canonicalMutationEnvelope] at h
    split at h
    case isFalse => cases h
    case isTrue hprint => exact (common_of_printable hu hprint).1
  · intro p t h
    rw [canonicalMutationJson, bind_unit_eq_ok] at h
    exact exists_parsed h.1

/-- An object with two keys: `U+FF5E`, and `U+1F600`, which is a pair of surrogates. -/
def twoKeys : Value := .obj [([0xFF5E], .null), ([0xD83D, 0xDE00], .null)]

/-- An envelope, as small as they are. -/
def smallEnvelope : Value := object [("b", .num (.finite (Binary64.zero true))), ("a", .arr [lit "x"])]

theorem canonical_bytes_small :
    Jobs.dumps (parsed smallEnvelope) = Control.canonicalize smallEnvelope
      ∧ ∃ t, canonicalMutationJson (parsed smallEnvelope) = .ok t
        ∧ Control.canonicalMutationEnvelope smallEnvelope = some t := by
  have h := canonical_bytes (v := smallEnvelope) (w := smallEnvelope) (by decide +kernel) (by decide +kernel)
  have hprint : Control.printable smallEnvelope 0 = true := by decide +kernel
  have hkeyed : Keyed smallEnvelope := Common.keyed (by decide +kernel)
  obtain ⟨t, ht⟩ : ∃ t, Control.canonicalMutationEnvelope smallEnvelope = some t :=
    Option.isSome_iff_exists.mp (by decide +kernel)
  exact ⟨h.1.mpr (common_of_printable hkeyed hprint).2, t, (h.2.2.1 t).mp ht, ht⟩

/-- **The two texts of one value need not be the same**: JavaScript puts the pair of surrogates first, and
Python puts it last. -/
theorem canonical_texts_differ : Common twoKeys
    ∧ (Control.canonicalize twoKeys).isSome ∧ (Jobs.dumps (parsed twoKeys)).isSome
    ∧ Jobs.dumps (parsed twoKeys) ≠ Control.canonicalize twoKeys := by
  have hcommon : Common twoKeys := by decide +kernel
  refine ⟨hcommon, by decide +kernel, ?_, ?_⟩
  · rw [dumps_parsed hcommon, stringify_written (written_arranged codePointLe hcommon.written).1]
    rfl
  · intro heq
    have hagree := ((canonical_texts_iff hcommon).mp heq).here
    have hkeys : codeUnitLe [0xD83D, 0xDE00] [0xFF5E] = codePointLe [0xD83D, 0xDE00] [0xFF5E] :=
      hagree _ (by simp) _ (by simp)
    exact absurd hkeys (by decide +kernel)

end Cloud
