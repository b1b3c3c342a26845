/-
# JSON.stringify and JSON.parse

`stringify` is `JSON.stringify` without indentation and `parse` is `JSON.parse`, both on the
whole value type.  Two details decide what a canonical text can be.

* Own properties are enumerated with the array-index keys first, in numeric order, and the other
  keys after them in creation order.  `insertOwn` is the creation of a property under that order,
  and an object's field list is `Ordered` when it is a list such creations produce.
* `JSON.stringify` escapes a lone surrogate and prints a pair as it is, so the text it returns
  has no lone surrogate whatever the value holds.

The main result is `parse_stringify`: a value that holds no `undefined`, no infinity, no NaN and
no negative zero, and whose objects are ordered, is read back exactly.
-/
import Archon.Ecma.Value

namespace Ecma

/-! ## 1. Creating properties -/

/-- Does a new key `key` stand before the existing key `k` in property order? -/
def goesBefore (key k : Text) : Bool :=
  match arrayIndex key, arrayIndex k with
  | some i, some j => decide (i < j)
  | some _, none => true
  | none, _ => false

/-- Create the own property `key`, or overwrite it where it stands. -/
def insertOwn (key : Text) (v : Value) : List (Text × Value) → List (Text × Value)
  | [] => [(key, v)]
  | (k, w) :: fs =>
    if k = key then (key, v) :: fs
    else if goesBefore key k then (key, v) :: (k, w) :: fs
    else (k, w) :: insertOwn key v fs

/-- The own properties after creating those of a list, in the order of the list. -/
def createAll (fs acc : List (Text × Value)) : List (Text × Value) :=
  fs.foldl (fun acc f => insertOwn f.1 f.2 acc) acc

/-- Property order: keys are distinct, and no later key belongs before an earlier one. -/
def Ordered (fs : List (Text × Value)) : Prop :=
  fs.Pairwise fun a b => a.1 ≠ b.1 ∧ goesBefore b.1 a.1 = false

instance (fs : List (Text × Value)) : Decidable (Ordered fs) :=
  inferInstanceAs (Decidable (fs.Pairwise _))

theorem Ordered.nodup {fs : List (Text × Value)} (h : Ordered fs) : (fs.map Prod.fst).Nodup := by
  rw [List.Nodup, List.pairwise_map]
  exact h.imp fun hab => hab.1

theorem goesBefore_trans {a b c : Text} (h : goesBefore a b = true) (hcb : goesBefore c b = false) :
    goesBefore c a = false := by
  unfold goesBefore at *
  cases ha : arrayIndex a <;> cases hb : arrayIndex b <;> cases hc : arrayIndex c <;>
    simp only [ha, hb, hc, decide_eq_true_eq, decide_eq_false_iff_not, reduceCtorEq] at h hcb ⊢
  omega

theorem goesBefore_asymm {a b : Text} (h : goesBefore a b = true) : goesBefore b a = false := by
  unfold goesBefore at *
  cases ha : arrayIndex a <;> cases hb : arrayIndex b <;>
    simp only [ha, hb, decide_eq_true_eq, decide_eq_false_iff_not, reduceCtorEq] at h ⊢
  omega

theorem insertOwn_perm {key : Text} {v : Value} : ∀ {fs : List (Text × Value)},
    key ∉ fs.map Prod.fst → (insertOwn key v fs).Perm ((key, v) :: fs)
  | [], _ => by simp [insertOwn]
  | (k, w) :: fs, h => by
    simp only [List.map_cons, List.mem_cons, not_or] at h
    unfold insertOwn
    rw [if_neg (fun e => h.1 e.symm)]
    split
    · exact List.Perm.refl _
    · exact ((insertOwn_perm h.2).cons (k, w)).trans (List.Perm.swap _ _ _)

theorem of_mem_insertOwn {key : Text} {v : Value} {f : Text × Value} :
    ∀ {fs : List (Text × Value)}, f ∈ insertOwn key v fs → f = (key, v) ∨ f ∈ fs
  | [], h => Or.inl (List.mem_singleton.mp h)
  | (k, w) :: fs, h => by
    unfold insertOwn at h
    split at h
    · rcases List.mem_cons.mp h with rfl | h
      · exact Or.inl rfl
      · exact Or.inr (List.mem_cons_of_mem _ h)
    · split at h
      · exact List.mem_cons.mp h
      · rcases List.mem_cons.mp h with rfl | h
        · exact Or.inr (by simp)
        · rcases of_mem_insertOwn h with rfl | h
          · exact Or.inl rfl
          · exact Or.inr (List.mem_cons_of_mem _ h)

theorem ordered_insertOwn {key : Text} {v : Value} : ∀ {fs : List (Text × Value)},
    Ordered fs → Ordered (insertOwn key v fs)
  | [], _ => by simp [insertOwn, Ordered]
  | (k, w) :: fs, h => by
    obtain ⟨hhead, htail⟩ := List.pairwise_cons.mp h
    unfold insertOwn
    split
    · rename_i hk
      subst hk
      exact List.pairwise_cons.mpr ⟨hhead, htail⟩
    · rename_i hk
      split
      · rename_i hb
        refine List.pairwise_cons.mpr ⟨?_, h⟩
        intro b hbm
        rcases List.mem_cons.mp hbm with rfl | hbm
        · exact ⟨fun e => hk e.symm, goesBefore_asymm hb⟩
        · refine ⟨?_, goesBefore_trans hb (hhead b hbm).2⟩
          rintro rfl
          exact absurd hb (by simp [(hhead b hbm).2])
      · rename_i hb
        refine List.pairwise_cons.mpr ⟨?_, ordered_insertOwn htail⟩
        intro b hbm
        rcases of_mem_insertOwn hbm with rfl | hbm
        · exact ⟨hk, by simpa using hb⟩
        · exact hhead b hbm

theorem insertOwn_last {key : Text} {v : Value} : ∀ {fs : List (Text × Value)},
    (∀ f ∈ fs, f.1 ≠ key ∧ goesBefore key f.1 = false) → insertOwn key v fs = fs ++ [(key, v)]
  | [], _ => rfl
  | (k, w) :: fs, h => by
    have hk := h (k, w) (by simp)
    unfold insertOwn
    rw [if_neg hk.1, if_neg (by simp [hk.2]), insertOwn_last fun f hf => h f (by simp [hf])]
    rfl

/-- Creating the properties of an ordered list, in its order, reproduces the list. -/
theorem createAll_ordered : ∀ {fs acc : List (Text × Value)}, Ordered (acc ++ fs) →
    createAll fs acc = acc ++ fs
  | [], acc, _ => by simp [createAll]
  | f :: fs, acc, h => by
    have hlast : insertOwn f.1 f.2 acc = acc ++ [f] := by
      refine insertOwn_last fun g hg => ?_
      exact (List.pairwise_append.mp h).2.2 g hg f (by simp)
    have hstep : createAll (f :: fs) acc = createAll fs (insertOwn f.1 f.2 acc) := rfl
    rw [hstep, hlast, createAll_ordered (by simpa using h)]
    simp

theorem nodup_insertOwn {key : Text} {v : Value} {fs acc : List (Text × Value)}
    (h : (((key, v) :: fs ++ acc).map Prod.fst).Nodup) :
    ((fs ++ insertOwn key v acc).map Prod.fst).Nodup := by
  have hk : key ∉ acc.map Prod.fst := by
    simp only [List.cons_append, List.map_cons, List.nodup_cons, List.map_append,
      List.mem_append, not_or] at h
    exact h.1.2
  have hperm : (fs ++ insertOwn key v acc).Perm ((key, v) :: fs ++ acc) :=
    ((insertOwn_perm hk).append_left fs).trans List.perm_middle
  exact (hperm.map Prod.fst).nodup_iff.mpr h

theorem createAll_perm : ∀ {fs acc : List (Text × Value)}, ((fs ++ acc).map Prod.fst).Nodup →
    (createAll fs acc).Perm (fs ++ acc)
  | [], _, _ => List.Perm.refl _
  | (k, v) :: fs, acc, h => by
    have hk : k ∉ acc.map Prod.fst := by
      simp only [List.cons_append, List.map_cons, List.nodup_cons, List.map_append,
        List.mem_append, not_or] at h
      exact h.1.2
    have hrest : (createAll fs (insertOwn k v acc)).Perm (fs ++ insertOwn k v acc) :=
      createAll_perm (nodup_insertOwn h)
    exact hrest.trans (((insertOwn_perm hk).append_left fs).trans List.perm_middle)

theorem ordered_createAll : ∀ {fs acc : List (Text × Value)}, Ordered acc →
    Ordered (createAll fs acc)
  | [], _, h => h
  | (k, v) :: fs, acc, h => by
    exact @ordered_createAll fs _ (ordered_insertOwn h)

/-! ## 2. JSON.stringify -/

/-- A hexadecimal digit, in lower case. -/
def hexUnit (d : Nat) : UInt16 := if d < 10 then UInt16.ofNat (0x30 + d) else UInt16.ofNat (0x57 + d)

/-- `\uXXXX`. -/
def unicodeEscape (u : UInt16) : Text :=
  [0x5C, 0x75, hexUnit (u.toNat / 4096), hexUnit (u.toNat / 256 % 16), hexUnit (u.toNat / 16 % 16),
    hexUnit (u.toNat % 16)]

/-- The unit after the backslash of a short escape. -/
def shortEscape (u : UInt16) : Option UInt16 :=
  if u = 0x08 then some 0x62
  else if u = 0x09 then some 0x74
  else if u = 0x0A then some 0x6E
  else if u = 0x0C then some 0x66
  else if u = 0x0D then some 0x72
  else if u = 0x22 then some 0x22
  else if u = 0x5C then some 0x5C
  else none

/-- A unit that is not half of a pair, as it stands in a string literal of JSON. -/
def escapeUnit (u : UInt16) : Text :=
  match shortEscape u with
  | some e => [0x5C, e]
  | none => if u < 0x20 || isHigh u || isLow u then unicodeEscape u else [u]

/-- The inside of a string literal of JSON. -/
def escape : Text → Text
  | [] => []
  | [u] => escapeUnit u
  | u :: v :: t =>
    if isHigh u && isLow v then u :: v :: escape t else escapeUnit u ++ escape (v :: t)

/-- `QuoteJSONString`. -/
def quote (s : Text) : Text := 0x22 :: (escape s ++ [0x22])

/-- Texts separated by commas. -/
def commaSep : List Text → Text
  | [] => []
  | [t] => t
  | t :: ts => t ++ 0x2C :: commaSep ts

mutual

/-- `JSON.stringify(v)`; `undefined` for `undefined`. -/
def stringify : Value → Option Text
  | .undefined => none
  | .null => some (js "null")
  | .bool b => some (if b then js "true" else js "false")
  | .num x => some (if x.isFinite then x.text else js "null")
  | .str s => some (quote s)
  | .arr items => some (0x5B :: (commaSep (itemTexts items) ++ [0x5D]))
  | .obj fields => some (0x7B :: (commaSep (memberTexts fields) ++ [0x7D]))

/-- The elements of an array; `undefined` is printed `null`. -/
def itemTexts : List Value → List Text
  | [] => []
  | v :: vs => (stringify v).getD (js "null") :: itemTexts vs

/-- The members of an object; those that are `undefined` are left out. -/
def memberTexts : List (Text × Value) → List Text
  | [] => []
  | (k, v) :: fs =>
    match stringify v with
    | some t => (quote k ++ 0x3A :: t) :: memberTexts fs
    | none => memberTexts fs

end

/-! ## 3. JSON.parse -/

/-- JSON white space. -/
def isJsonSpace (u : UInt16) : Bool := u == 0x20 || u == 0x09 || u == 0x0A || u == 0x0D

/-- Skip white space. -/
def skipSpace (t : Text) : Text := t.dropWhile isJsonSpace

/-- The value of a hexadecimal digit. -/
def hexValue (u : UInt16) : Option Nat := baseDigit 16 u

/-- The unit a short escape denotes. -/
def unescape (e : UInt16) : Option UInt16 :=
  if e = 0x62 then some 0x08
  else if e = 0x74 then some 0x09
  else if e = 0x6E then some 0x0A
  else if e = 0x66 then some 0x0C
  else if e = 0x72 then some 0x0D
  else if e = 0x22 then some 0x22
  else if e = 0x5C then some 0x5C
  else if e = 0x2F then some 0x2F
  else none

/-- The inside of a string literal, up to its closing quote. -/
def readString : Text → Option (Text × Text)
  | [] => none
  | [u] => if u = 0x22 then some ([], []) else none
  | u :: e :: t =>
    if u = 0x22 then some ([], e :: t)
    else if u = 0x5C then
      if e = 0x75 then
        match t with
        | a :: b :: c :: d :: r =>
          match hexValue a, hexValue b, hexValue c, hexValue d with
          | some a, some b, some c, some d =>
            (readString r).map fun p =>
              (UInt16.ofNat (4096 * a + 256 * b + 16 * c + d) :: p.1, p.2)
          | _, _, _, _ => none
        | _ => none
      else match unescape e with
        | some w => (readString t).map fun p => (w :: p.1, p.2)
        | none => none
    else if u < 0x20 then none
    else (readString (e :: t)).map fun p => (u :: p.1, p.2)

/-- A literal name at the front of a text. -/
def readName (name : String) (v : Value) (t : Text) : Option (Value × Text) :=
  if (js name).isPrefixOf t then some (v, t.drop (js name).length) else none

/-- A member's key and the colon after it. -/
def readKey (t : Text) : Option (Text × Text) :=
  match skipSpace t with
  | u :: r =>
    if u = 0x22 then
      match readString r with
      | some (k, r₁) =>
        if (skipSpace r₁).head? = some 0x3A then some (k, (skipSpace r₁).tail) else none
      | none => none
    else none
  | [] => none

mutual

/-- A value, with the text after it.  The fuel bounds the nesting. -/
def readValue : Nat → Text → Option (Value × Text)
  | 0, _ => none
  | fuel + 1, t =>
    match skipSpace t with
    | [] => none
    | u :: r =>
      if u = 0x7B then
        if (skipSpace r).head? = some 0x7D then some (.obj [], (skipSpace r).tail)
        else (readMembers fuel r).map fun p => (.obj (createAll p.1 []), p.2)
      else if u = 0x5B then
        if (skipSpace r).head? = some 0x5D then some (.arr [], (skipSpace r).tail)
        else (readItems fuel r).map fun p => (.arr p.1, p.2)
      else if u = 0x22 then (readString r).map fun p => (.str p.1, p.2)
      else if u = 0x74 then readName "true" (.bool true) (u :: r)
      else if u = 0x66 then readName "false" (.bool false) (u :: r)
      else if u = 0x6E then readName "null" .null (u :: r)
      else (readNumber (u :: r)).map fun p => (.num p.1, p.2)

/-- The elements of a non-empty array, with its closing bracket. -/
def readItems : Nat → Text → Option (List Value × Text)
  | 0, _ => none
  | fuel + 1, t =>
    match readValue fuel t with
    | none => none
    | some (v, r) =>
      match skipSpace r with
      | u :: r' =>
        if u = 0x2C then (readItems fuel r').map fun p => (v :: p.1, p.2)
        else if u = 0x5D then some ([v], r')
        else none
      | [] => none

/-- The members of a non-empty object, in the order of the text, with its closing brace. -/
def readMembers : Nat → Text → Option (List (Text × Value) × Text)
  | 0, _ => none
  | fuel + 1, t =>
    match readKey t with
    | none => none
    | some (k, r₁) =>
      match readValue fuel r₁ with
      | none => none
      | some (v, r₂) =>
        match skipSpace r₂ with
        | u :: r₃ =>
          if u = 0x2C then (readMembers fuel r₃).map fun p => ((k, v) :: p.1, p.2)
          else if u = 0x7D then some ([(k, v)], r₃)
          else none
        | [] => none

end

/-- `JSON.parse(t)`; `none` for a `SyntaxError`. -/
def parse (t : Text) : Option Value :=
  match readValue (2 * t.length + 2) t with
  | some (v, r) => if skipSpace r = [] then some v else none
  | none => none

/-! ## 4. Reading a printed string -/

theorem hexValue_hexUnit {d : Nat} (h : d < 16) : hexValue (hexUnit d) = some d := by
  interval_cases d <;> decide

theorem unescape_shortEscape {u e : UInt16} (h : shortEscape u = some e) :
    unescape e = some u ∧ e ≠ 0x75 := by
  unfold shortEscape at h
  split_ifs at h <;>
    (obtain rfl := Option.some.inj h; subst_vars; decide)

theorem readString_raw {u : UInt16} {t : Text} (ht : t ≠ []) (hq : u ≠ 0x22) (hb : u ≠ 0x5C)
    (hc : ¬ u < 0x20) : readString (u :: t) = (readString t).map fun p => (u :: p.1, p.2) := by
  obtain ⟨e, t, rfl⟩ := List.exists_cons_of_ne_nil ht
  rw [readString.eq_def]
  simp only [if_neg hq, if_neg hb, if_neg hc]

theorem readString_unicodeEscape (u : UInt16) (t : Text) :
    readString (unicodeEscape u ++ t) = (readString t).map fun p => (u :: p.1, p.2) := by
  have hu : u.toNat < 65536 := u.toNat_lt
  have h1 := hexValue_hexUnit (d := u.toNat / 4096) (by omega)
  have h2 := hexValue_hexUnit (d := u.toNat / 256 % 16) (by omega)
  have h3 := hexValue_hexUnit (d := u.toNat / 16 % 16) (by omega)
  have h4 := hexValue_hexUnit (d := u.toNat % 16) (by omega)
  have hval : 4096 * (u.toNat / 4096) + 256 * (u.toNat / 256 % 16) + 16 * (u.toNat / 16 % 16)
      + u.toNat % 16 = u.toNat := by omega
  simp only [unicodeEscape, List.cons_append, List.nil_append, readString,
    if_neg (by decide : ¬ (0x5C : UInt16) = 0x22), if_true, h1, h2, h3, h4, hval,
    UInt16.ofNat_toNat]

theorem readString_escapeUnit (u : UInt16) {t : Text} (ht : t ≠ []) :
    readString (escapeUnit u ++ t) = (readString t).map fun p => (u :: p.1, p.2) := by
  unfold escapeUnit
  split
  · rename_i e he
    obtain ⟨hun, hne⟩ := unescape_shortEscape he
    rw [readString.eq_def]
    simp only [List.cons_append, List.nil_append,
      if_neg (by decide : ¬ (0x5C : UInt16) = 0x22), if_true, if_neg hne, hun]
  · rename_i hs
    split
    · exact readString_unicodeEscape u t
    · rename_i hplain
      have hq : u ≠ 0x22 := by rintro rfl; exact absurd hs (by decide)
      have hb : u ≠ 0x5C := by rintro rfl; exact absurd hs (by decide)
      have hc : ¬ u < 0x20 := fun h => hplain (by simp [h])
      exact readString_raw ht hq hb hc

theorem readString_surrogate {u : UInt16} {t : Text} (ht : t ≠ []) (h : 0xD800 ≤ u) :
    readString (u :: t) = (readString t).map fun p => (u :: p.1, p.2) := by
  refine readString_raw ht ?_ ?_ ?_
  · rintro rfl; exact absurd h (by decide)
  · rintro rfl; exact absurd h (by decide)
  · intro hlt
    exact absurd (UInt16.lt_of_lt_of_le hlt (by decide : (0x20 : UInt16) ≤ 0xD800))
      (UInt16.not_lt.mpr h)

/-- The inside of a printed string reads back, whatever follows the closing quote. -/
theorem readString_escape : ∀ (s r : Text), readString (escape s ++ 0x22 :: r) = some (s, r)
  | [], r => by
    rw [readString.eq_def]
    cases r <;> simp [escape]
  | [u], r => by
    rw [escape, readString_escapeUnit u (by simp)]
    have := readString_escape [] r
    simp only [escape, List.nil_append] at this
    rw [this]; rfl
  | u :: v :: t, r => by
    unfold escape
    split
    · rename_i h
      obtain ⟨hu, hv⟩ := (Bool.and_eq_true _ _).mp h
      have hu' : 0xD800 ≤ u := by simpa using ((Bool.and_eq_true _ _).mp hu).1
      have hv' : 0xD800 ≤ v :=
        UInt16.le_trans (by decide : (0xD800 : UInt16) ≤ 0xDC00)
          (by simpa using ((Bool.and_eq_true _ _).mp hv).1)
      simp only [List.cons_append]
      rw [readString_surrogate (by simp) hu', readString_surrogate (by simp) hv',
        readString_escape t r]
      rfl
    · rw [List.append_assoc, readString_escapeUnit u (by simp), readString_escape (v :: t) r]
      rfl

/-! ## 5. Reading a printed value -/

mutual

/-- A value that JSON can carry exactly: no `undefined`, finite numbers other than `-0`, and
objects in property order. -/
def Exact : Value → Prop
  | .undefined => False
  | .num x => x.isFinite = true ∧ x.normZero = x
  | .arr items => ExactItems items
  | .obj fields => Ordered fields ∧ ExactFields fields
  | _ => True

/-- `Exact` for the elements of an array. -/
def ExactItems : List Value → Prop
  | [] => True
  | v :: vs => Exact v ∧ ExactItems vs

/-- `Exact` for the members of an object. -/
def ExactFields : List (Text × Value) → Prop
  | [] => True
  | (_, v) :: fs => Exact v ∧ ExactFields fs

end

mutual

/-- How deep the reader recurses on a printed value. -/
def depth : Value → Nat
  | .arr items => 1 + depthItems items
  | .obj fields => 1 + depthFields fields
  | _ => 1

/-- The same for the elements of an array. -/
def depthItems : List Value → Nat
  | [] => 1
  | v :: vs => 1 + depth v + depthItems vs

/-- The same for the members of an object. -/
def depthFields : List (Text × Value) → Nat
  | [] => 1
  | (_, v) :: fs => 1 + depth v + depthFields fs

end

theorem skipSpace_cons {u : UInt16} {t : Text} (h : isJsonSpace u = false) :
    skipSpace (u :: t) = u :: t := by
  simp [skipSpace, h]

theorem text_head (x : Binary64) :
    ∃ u s, Number.text (.finite x) = u :: s ∧ (isDigit u = true ∨ u = 0x2D) := by
  have hm' : js "-" = [0x2D] := by decide
  unfold Number.text
  simp only
  split
  · exact ⟨0x30, [], by decide, Or.inl (by decide)⟩
  · rename_i hm
    obtain ⟨d, ds, hds, -⟩ := decimalDigits_head (Binary64.shortest_sig_ne_zero hm)
    have hlt : d < 10 := decimalDigits_lt (n := (Binary64.shortest x).sig) (by rw [hds]; simp)
    rw [hds]
    cases x.neg with
    | true => exact ⟨0x2D, _, by rw [if_pos rfl, hm']; rfl, Or.inr rfl⟩
    | false =>
      obtain ⟨u, s, hu, hdig⟩ := layout_head d ds
        ((Binary64.shortest x).pow + ((d :: ds).length : Int)) hlt
      exact ⟨u, s, by rw [if_neg (by simp), List.nil_append, hu], Or.inl hdig⟩

/-- What the first unit of a printed value is not. -/
theorem digit_or_minus {u : UInt16} (h : isDigit u = true ∨ u = 0x2D) :
    isJsonSpace u = false ∧ u ≠ 0x7B ∧ u ≠ 0x5B ∧ u ≠ 0x22 ∧ u ≠ 0x74 ∧ u ≠ 0x66 ∧ u ≠ 0x6E ∧
      u ≠ 0x5D ∧ u ≠ 0x7D := by
  have hns : ∀ w : UInt16, isDigit w = false → w ≠ 0x2D → u ≠ w := by
    rintro w hd hm rfl
    rcases h with h | h
    · rw [hd] at h; exact absurd h (by decide)
    · exact hm h
  have hsp : isJsonSpace u = false := by
    simp only [isJsonSpace, Bool.or_eq_false_iff, beq_eq_false_iff_ne]
    exact ⟨⟨⟨hns _ (by decide) (by decide), hns _ (by decide) (by decide)⟩,
      hns _ (by decide) (by decide)⟩, hns _ (by decide) (by decide)⟩
  refine ⟨hsp, ?_, ?_, ?_, ?_, ?_, ?_, ?_, ?_⟩ <;> exact hns _ (by decide) (by decide)

/-- A printed value begins with a unit that is no space and closes nothing. -/
theorem stringify_head {v : Value} {t : Text} (h : Exact v) (ht : stringify v = some t) :
    ∃ u s, t = u :: s ∧ isJsonSpace u = false ∧ u ≠ 0x5D ∧ u ≠ 0x7D := by
  cases v with
  | undefined => exact absurd h (by simp [Exact])
  | null => exact ⟨0x6E, _, (Option.some.inj ht).symm, by decide⟩
  | bool b =>
    cases b with
    | true => exact ⟨0x74, _, (Option.some.inj ht).symm, by decide⟩
    | false => exact ⟨0x66, _, (Option.some.inj ht).symm, by decide⟩
  | num x =>
    cases x with
    | nan => exact absurd h.1 (by decide)
    | infinity neg => exact absurd h.1 (by simp [Number.isFinite])
    | finite x =>
      obtain ⟨u, s, hu, hdig⟩ := text_head x
      obtain ⟨h1, -, -, -, -, -, -, h2, h3⟩ := digit_or_minus hdig
      refine ⟨u, s, ?_, h1, h2, h3⟩
      rw [← hu]
      exact (Option.some.inj ht).symm
  | str s => exact ⟨0x22, _, (Option.some.inj ht).symm, by decide⟩
  | arr items => exact ⟨0x5B, _, (Option.some.inj ht).symm, by decide⟩
  | obj fields => exact ⟨0x7B, _, (Option.some.inj ht).symm, by decide⟩

theorem stringify_of_exact {v : Value} (h : Exact v) : ∃ t, stringify v = some t := by
  cases v with
  | undefined => exact absurd h (by simp [Exact])
  | _ => exact ⟨_, by rw [stringify]⟩

theorem readKey_quote (k t : Text) : readKey (quote k ++ 0x3A :: t) = some (k, t) := by
  have hq : quote k ++ 0x3A :: t = 0x22 :: (escape k ++ 0x22 :: 0x3A :: t) := by simp [quote]
  rw [hq, readKey, skipSpace_cons (by decide)]
  simp only [if_true, readString_escape k, skipSpace_cons (by decide : isJsonSpace 0x3A = false),
    List.head?_cons, List.tail_cons]

theorem readValue_number {x : Number} (h : Exact (.num x)) {fuel : Nat} {r : Text}
    (hr : EndsNumeral r) : readValue (fuel + 1) (x.text ++ r) = some (.num x, r) := by
  obtain ⟨hfin, hnorm⟩ := h
  cases x with
  | nan => exact absurd hfin (by decide)
  | infinity neg => exact absurd hfin (by simp [Number.isFinite])
  | finite x =>
    have hread := readNumber_text x hr
    obtain ⟨u, s, hu, hdig⟩ := text_head x
    obtain ⟨hsp, h1, h2, h3, h4, h5, h6, -, -⟩ := digit_or_minus hdig
    rw [hu, List.cons_append] at hread ⊢
    rw [readValue, skipSpace_cons hsp]
    simp only [if_neg h1, if_neg h2, if_neg h3, if_neg h4, if_neg h5, if_neg h6, hread, hnorm,
      Option.map_some]

/-- An opening bracket that is not followed by its closing one opens a list of elements. -/
theorem readValue_bracket {fuel : Nat} {u : UInt16} {s : Text} (hsp : isJsonSpace u = false)
    (hu : u ≠ 0x5D) : readValue (fuel + 1) (0x5B :: u :: s)
      = (readItems fuel (u :: s)).map fun p => (.arr p.1, p.2) := by
  rw [readValue, skipSpace_cons (by decide)]
  simp only [if_neg (by decide : ¬ (0x5B : UInt16) = 0x7B), if_true, skipSpace_cons hsp,
    List.head?_cons, Option.some.injEq, if_neg hu]

/-- The same for a brace. -/
theorem readValue_brace {fuel : Nat} {s : Text} : readValue (fuel + 1) (0x7B :: 0x22 :: s)
    = (readMembers fuel (0x22 :: s)).map fun p => (.obj (createAll p.1 []), p.2) := by
  rw [readValue, skipSpace_cons (by decide)]
  simp only [if_true, skipSpace_cons (by decide : isJsonSpace 0x22 = false),
    List.head?_cons, Option.some.injEq, if_neg (by decide : ¬ (0x22 : UInt16) = 0x7D)]

theorem endsNumeral_comma (r : Text) : EndsNumeral (0x2C :: r) :=
  endsNumeral_cons (by decide) (by decide)

theorem endsNumeral_bracket (r : Text) : EndsNumeral (0x5D :: r) :=
  endsNumeral_cons (by decide) (by decide)

theorem endsNumeral_brace (r : Text) : EndsNumeral (0x7D :: r) :=
  endsNumeral_cons (by decide) (by decide)

/-- The elements of a non-empty array begin as its first element does. -/
theorem itemTexts_head {v : Value} {vs : List Value} {r : Text} (h : ExactItems (v :: vs)) :
    ∃ u s, commaSep (itemTexts (v :: vs)) ++ r = u :: s ∧ isJsonSpace u = false ∧ u ≠ 0x5D ∧
      u ≠ 0x7D := by
  obtain ⟨t, ht⟩ := stringify_of_exact h.1
  obtain ⟨u, s, rfl, hu⟩ := stringify_head h.1 ht
  cases vs with
  | nil => exact ⟨u, _, by simp only [itemTexts, ht, Option.getD_some, commaSep]; rfl, hu⟩
  | cons w ws => exact ⟨u, _, by simp only [itemTexts, ht, Option.getD_some, commaSep]; rfl, hu⟩

/-- The members of a non-empty object begin with a quote. -/
theorem memberTexts_head {k : Text} {v : Value} {fs : List (Text × Value)} {r : Text}
    (h : ExactFields ((k, v) :: fs)) :
    ∃ s, commaSep (memberTexts ((k, v) :: fs)) ++ r = 0x22 :: s := by
  obtain ⟨t, ht⟩ := stringify_of_exact h.1
  simp only [memberTexts, ht, quote, List.cons_append]
  cases memberTexts fs with
  | nil => exact ⟨_, rfl⟩
  | cons w ws => exact ⟨_, rfl⟩

mutual

/-- A printed value is read off the front of a text. -/
theorem readValue_stringify : ∀ (v : Value) {t r : Text} {n : Nat}, Exact v →
    stringify v = some t → depth v ≤ n + 1 → EndsNumeral r →
    readValue (n + 1) (t ++ r) = some (v, r)
  | .undefined, _, _, _, h, _, _, _ => absurd h (by simp [Exact])
  | .null, _, r, fuel, _, ht, _, _ => by
    obtain rfl := Option.some.inj ht
    rfl
  | .bool true, _, r, fuel, _, ht, _, _ => by
    obtain rfl := Option.some.inj ht
    rfl
  | .bool false, _, r, fuel, _, ht, _, _ => by
    obtain rfl := Option.some.inj ht
    rfl
  | .num x, t, r, fuel, h, ht, _, hr => by
    rw [stringify, if_pos h.1] at ht
    obtain rfl := Option.some.inj ht
    exact readValue_number h hr
  | .str s, t, r, fuel, _, ht, _, _ => by
    rw [stringify] at ht
    obtain rfl := Option.some.inj ht
    have hq : quote s ++ r = 0x22 :: (escape s ++ 0x22 :: r) := by simp [quote]
    rw [hq, readValue, skipSpace_cons (by decide)]
    simp only [if_neg (by decide : ¬ (0x22 : UInt16) = 0x7B),
      if_neg (by decide : ¬ (0x22 : UInt16) = 0x5B), if_true, readString_escape s, Option.map_some]
  | .arr [], t, r, fuel, _, ht, _, _ => by
    obtain rfl := Option.some.inj ht
    rfl
  | .arr (v :: vs), t, r, fuel, h, ht, hd, _ => by
    rw [stringify] at ht
    obtain rfl := Option.some.inj ht
    rw [depth] at hd
    have hfuel : depthItems (v :: vs) ≤ fuel := by omega
    obtain ⟨u, s, hus, hsp, hcl, -⟩ := itemTexts_head (r := 0x5D :: r) h
    have hread := readItems_stringify (v :: vs) (r := r) (by simp) h hfuel
    have hshape : 0x5B :: (commaSep (itemTexts (v :: vs)) ++ [0x5D]) ++ r
        = 0x5B :: (commaSep (itemTexts (v :: vs)) ++ 0x5D :: r) := by simp
    rw [hshape]
    rw [hus] at hread ⊢
    rw [readValue_bracket hsp hcl, hread]
    rfl
  | .obj [], t, r, fuel, _, ht, _, _ => by
    obtain rfl := Option.some.inj ht
    rfl
  | .obj ((k, v) :: fs), t, r, fuel, h, ht, hd, _ => by
    rw [stringify] at ht
    obtain rfl := Option.some.inj ht
    rw [depth] at hd
    have hfuel : depthFields ((k, v) :: fs) ≤ fuel := by omega
    obtain ⟨hord, hex⟩ := h
    obtain ⟨s, hs⟩ := memberTexts_head (k := k) (r := 0x7D :: r) hex
    have hread := readMembers_stringify ((k, v) :: fs) (r := r) (by simp) hex hfuel
    have hshape : 0x7B :: (commaSep (memberTexts ((k, v) :: fs)) ++ [0x7D]) ++ r
        = 0x7B :: (commaSep (memberTexts ((k, v) :: fs)) ++ 0x7D :: r) := by simp
    rw [hshape]
    rw [hs] at hread ⊢
    rw [readValue_brace, hread]
    simp only [Option.map_some, @createAll_ordered _ [] hord, List.nil_append]

/-- The elements of a printed array are read up to its closing bracket. -/
theorem readItems_stringify : ∀ (vs : List Value) {r : Text} {n : Nat}, vs ≠ [] →
    ExactItems vs → depthItems vs ≤ n →
    readItems n (commaSep (itemTexts vs) ++ 0x5D :: r) = some (vs, r)
  | [], _, _, hne, _, _ => absurd rfl hne
  | v :: vs, r, 0, _, _, hd => by simp [depthItems] at hd
  | [v], r, fuel + 1, _, h, hd => by
    obtain ⟨t, ht⟩ := stringify_of_exact h.1
    obtain ⟨n, rfl⟩ : ∃ n, fuel = n + 1 := ⟨fuel - 1, by simp [depthItems] at hd; omega⟩
    have hv := readValue_stringify v (n := n) h.1 ht (by simp [depthItems] at hd; omega)
      (endsNumeral_bracket r)
    simp only [itemTexts, ht, Option.getD_some, commaSep]
    rw [readItems, hv]
    simp only [skipSpace_cons (by decide : isJsonSpace 0x5D = false),
      if_neg (by decide : ¬ (0x5D : UInt16) = 0x2C), if_true]
  | v :: w :: ws, r, fuel + 1, _, h, hd => by
    obtain ⟨t, ht⟩ := stringify_of_exact h.1
    obtain ⟨n, rfl⟩ : ∃ n, fuel = n + 1 := ⟨fuel - 1, by simp [depthItems] at hd; omega⟩
    have hshape : commaSep (itemTexts (v :: w :: ws)) ++ 0x5D :: r
        = t ++ 0x2C :: (commaSep (itemTexts (w :: ws)) ++ 0x5D :: r) := by
      simp only [itemTexts, ht, Option.getD_some, commaSep, List.append_assoc, List.cons_append]
    have hv := readValue_stringify v (n := n) h.1 ht (by simp [depthItems] at hd; omega)
      (endsNumeral_comma (commaSep (itemTexts (w :: ws)) ++ 0x5D :: r))
    have hvs := readItems_stringify (w :: ws) (r := r) (n := n + 1) (by simp) h.2
      (by rw [depthItems] at hd; omega)
    rw [hshape, readItems, hv]
    simp only [skipSpace_cons (by decide : isJsonSpace 0x2C = false), if_true, hvs,
      Option.map_some]

/-- The members of a printed object are read up to its closing brace. -/
theorem readMembers_stringify : ∀ (fs : List (Text × Value)) {r : Text} {n : Nat}, fs ≠ [] →
    ExactFields fs → depthFields fs ≤ n →
    readMembers n (commaSep (memberTexts fs) ++ 0x7D :: r) = some (fs, r)
  | [], _, _, hne, _, _ => absurd rfl hne
  | (k, v) :: fs, r, 0, _, _, hd => by simp [depthFields] at hd
  | [(k, v)], r, fuel + 1, _, h, hd => by
    obtain ⟨t, ht⟩ := stringify_of_exact h.1
    obtain ⟨n, rfl⟩ : ∃ n, fuel = n + 1 := ⟨fuel - 1, by simp [depthFields] at hd; omega⟩
    have hv := readValue_stringify v (n := n) h.1 ht (by simp [depthFields] at hd; omega)
      (endsNumeral_brace r)
    simp only [memberTexts, ht, commaSep, List.append_assoc, List.cons_append]
    rw [readMembers, readKey_quote]
    simp only [hv, skipSpace_cons (by decide : isJsonSpace 0x7D = false),
      if_neg (by decide : ¬ (0x7D : UInt16) = 0x2C), if_true]
  | (k, v) :: (k', w) :: fs, r, fuel + 1, _, h, hd => by
    obtain ⟨t, ht⟩ := stringify_of_exact h.1
    obtain ⟨n, rfl⟩ : ∃ n, fuel = n + 1 := ⟨fuel - 1, by simp [depthFields] at hd; omega⟩
    have hshape : commaSep (memberTexts ((k, v) :: (k', w) :: fs)) ++ 0x7D :: r
        = quote k ++ 0x3A :: (t ++ 0x2C :: (commaSep (memberTexts ((k', w) :: fs)) ++ 0x7D :: r)) := by
      obtain ⟨t', ht'⟩ := stringify_of_exact h.2.1
      simp only [memberTexts, ht, ht', commaSep, List.append_assoc, List.cons_append]
    have hv := readValue_stringify v (n := n) h.1 ht (by simp [depthFields] at hd; omega)
      (endsNumeral_comma (commaSep (memberTexts ((k', w) :: fs)) ++ 0x7D :: r))
    have hfs := readMembers_stringify ((k', w) :: fs) (r := r) (n := n + 1) (by simp) h.2
      (by rw [depthFields] at hd; omega)
    rw [hshape, readMembers, readKey_quote]
    simp only [hv, skipSpace_cons (by decide : isJsonSpace 0x2C = false), if_true, hfs,
      Option.map_some]

end

/-! ## 6. The round trip -/

theorem length_commaSep_cons (t : Text) (ts : List Text) :
    (commaSep (t :: ts)).length = t.length + if ts = [] then 0 else 1 + (commaSep ts).length := by
  cases ts with
  | nil => simp [commaSep]
  | cons t' ts => simp [commaSep]; omega

mutual

/-- A printed value is long enough for the fuel `parse` takes. -/
theorem depth_le_length : ∀ (v : Value) {t : Text}, Exact v → stringify v = some t →
    depth v ≤ 2 * t.length
  | .undefined, _, h, _ => absurd h (by simp [Exact])
  | .null, _, h, ht => by
    obtain ⟨u, s, rfl, -⟩ := stringify_head h ht
    simp only [depth, List.length_cons]; omega
  | .bool b, _, h, ht => by
    obtain ⟨u, s, rfl, -⟩ := stringify_head h ht
    simp only [depth, List.length_cons]; omega
  | .num x, _, h, ht => by
    obtain ⟨u, s, rfl, -⟩ := stringify_head h ht
    simp only [depth, List.length_cons]; omega
  | .str s, _, h, ht => by
    obtain ⟨u, s', rfl, -⟩ := stringify_head h ht
    simp only [depth, List.length_cons]; omega
  | .arr items, _, h, ht => by
    rw [stringify] at ht
    obtain rfl := Option.some.inj ht
    have hitems := depthItems_le_length items h
    simp only [depth, List.length_cons, List.length_append, List.length_nil]
    omega
  | .obj fields, _, h, ht => by
    rw [stringify] at ht
    obtain rfl := Option.some.inj ht
    have hfields := depthFields_le_length fields h.2
    simp only [depth, List.length_cons, List.length_append, List.length_nil]
    omega

/-- The same for the elements of an array. -/
theorem depthItems_le_length : ∀ vs : List Value, ExactItems vs →
    depthItems vs ≤ 2 * (commaSep (itemTexts vs)).length + 2
  | [], _ => by simp [depthItems, itemTexts, commaSep]
  | v :: vs, h => by
    obtain ⟨t, ht⟩ := stringify_of_exact h.1
    have hv := depth_le_length v h.1 ht
    have hvs := depthItems_le_length vs h.2
    simp only [depthItems, itemTexts, ht, Option.getD_some, length_commaSep_cons]
    split
    · rename_i hnil
      cases vs with
      | nil => simp only [depthItems]; omega
      | cons w ws => simp [itemTexts] at hnil
    · omega

/-- The same for the members of an object. -/
theorem depthFields_le_length : ∀ fs : List (Text × Value), ExactFields fs →
    depthFields fs ≤ 2 * (commaSep (memberTexts fs)).length + 2
  | [], _ => by simp [depthFields, memberTexts, commaSep]
  | (k, v) :: fs, h => by
    obtain ⟨t, ht⟩ := stringify_of_exact h.1
    have hv := depth_le_length v h.1 ht
    have hfs := depthFields_le_length fs h.2
    simp only [depthFields, memberTexts, ht, length_commaSep_cons, List.length_append,
      List.length_cons]
    split
    · rename_i hnil
      simp only [hnil, commaSep, List.length_nil] at hfs
      omega
    · omega

end

/-- **Printing and parsing is the identity** on the values JSON can carry exactly. -/
theorem parse_stringify {v : Value} {t : Text} (h : Exact v) (ht : stringify v = some t) :
    parse t = some v := by
  have hdepth := depth_le_length v h ht
  have hread := readValue_stringify v (n := 2 * t.length + 1) h ht (by omega) endsNumeral_nil
  rw [List.append_nil] at hread
  rw [parse, hread]
  rfl

end Ecma
