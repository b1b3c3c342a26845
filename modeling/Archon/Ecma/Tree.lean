/-
# Values as trees

What holds of a value because it holds at every node of it: an induction principle that hands
each case its children (`Value.induct`), a predicate required at every node (`Everywhere`), and
the relation `Same`, which two values are in when they differ in nothing but the order of object
keys and the sign of a zero.  `Same` is what "the same JSON" means to a reader who does not look
at the text.

The code unit order on keys stands here too, with the sort of an object's members by it: that is
the order `Array.prototype.sort` gives a list of strings when it is called without a comparator.
-/
import Archon.Ecma.Json

namespace Ecma

/-! ## 1. Induction -/

namespace Value

/-- Induction on a value, with the claim for every element of an array and for the value of every
member of an object. -/
@[elab_as_elim]
theorem induct {p : Value → Prop} (v : Value) (undefined : p .undefined) (null : p .null)
    (bool : ∀ b, p (.bool b)) (num : ∀ x, p (.num x)) (str : ∀ s, p (.str s))
    (arr : ∀ items, (∀ v ∈ items, p v) → p (.arr items))
    (obj : ∀ fields : List (Text × Value), (∀ f ∈ fields, p f.2) → p (.obj fields)) : p v :=
  match v with
  | .undefined => undefined
  | .null => null
  | .bool b => bool b
  | .num x => num x
  | .str s => str s
  | .arr items => arr items fun v _ => induct v undefined null bool num str arr obj
  | .obj fields => obj fields fun f _ => induct f.2 undefined null bool num str arr obj
termination_by sizeOf v
decreasing_by
  · rename_i hv
    have := List.sizeOf_lt_of_mem hv
    simp only [Value.arr.sizeOf_spec]; omega
  · rename_i hf
    have h1 := List.sizeOf_lt_of_mem hf
    have h2 : sizeOf f.2 < sizeOf f := by cases f; simp
    simp only [Value.obj.sizeOf_spec]; omega

/-! ## 2. A predicate at every node -/

mutual

/-- `p` holds of the value and of every value inside it. -/
def Everywhere (p : Value → Prop) : Value → Prop
  | .arr items => p (.arr items) ∧ EverywhereItems p items
  | .obj fields => p (.obj fields) ∧ EverywhereFields p fields
  | v => p v

/-- `Everywhere` for the elements of an array. -/
def EverywhereItems (p : Value → Prop) : List Value → Prop
  | [] => True
  | v :: vs => Everywhere p v ∧ EverywhereItems p vs

/-- `Everywhere` for the members of an object. -/
def EverywhereFields (p : Value → Prop) : List (Text × Value) → Prop
  | [] => True
  | (_, v) :: fs => Everywhere p v ∧ EverywhereFields p fs

end

variable {p : Value → Prop}

theorem everywhereItems_iff : ∀ {items : List Value},
    EverywhereItems p items ↔ ∀ v ∈ items, Everywhere p v
  | [] => by simp [EverywhereItems]
  | v :: vs => by rw [EverywhereItems, everywhereItems_iff, List.forall_mem_cons]

theorem everywhereFields_iff : ∀ {fields : List (Text × Value)},
    EverywhereFields p fields ↔ ∀ f ∈ fields, Everywhere p f.2
  | [] => by simp [EverywhereFields]
  | (k, v) :: fs => by rw [EverywhereFields, everywhereFields_iff, List.forall_mem_cons]

theorem everywhere_arr {items : List Value} :
    Everywhere p (.arr items) ↔ p (.arr items) ∧ ∀ v ∈ items, Everywhere p v := by
  rw [Everywhere, everywhereItems_iff]

theorem everywhere_obj {fields : List (Text × Value)} :
    Everywhere p (.obj fields) ↔ p (.obj fields) ∧ ∀ f ∈ fields, Everywhere p f.2 := by
  rw [Everywhere, everywhereFields_iff]

theorem Everywhere.here {v : Value} (h : Everywhere p v) : p v := by
  cases v with
  | arr items => exact (everywhere_arr.mp h).1
  | obj fields => exact (everywhere_obj.mp h).1
  | _ => simpa only [Everywhere] using h

theorem Everywhere.get {fields : List (Text × Value)} (h : Everywhere p (.obj fields))
    {key : Text} {v : Value} (hv : lookup key fields = some v) : Everywhere p v :=
  (everywhere_obj.mp h).2 _ (mem_of_lookup hv)

theorem Everywhere.imp {q : Value → Prop} (hpq : ∀ v, p v → q v) {v : Value} :
    Everywhere p v → Everywhere q v := by
  refine Value.induct v ?_ ?_ ?_ ?_ ?_ ?_ ?_
  · exact hpq _
  · exact hpq _
  · exact fun b => hpq _
  · exact fun x => hpq _
  · exact fun s => hpq _
  · intro items ih h
    obtain ⟨h1, h2⟩ := everywhere_arr.mp h
    exact everywhere_arr.mpr ⟨hpq _ h1, fun v hv => ih v hv (h2 v hv)⟩
  · intro fields ih h
    obtain ⟨h1, h2⟩ := everywhere_obj.mp h
    exact everywhere_obj.mpr ⟨hpq _ h1, fun f hf => ih f hf (h2 f hf)⟩

section Decide

variable (p : Value → Prop) [DecidablePred p]

mutual

/-- Whether a decidable predicate holds at every node can be decided. -/
def decEverywhere : ∀ v : Value, Decidable (Everywhere p v)
  | .arr items =>
    have := decEverywhereItems items
    inferInstanceAs (Decidable (p (.arr items) ∧ EverywhereItems p items))
  | .obj fields =>
    have := decEverywhereFields fields
    inferInstanceAs (Decidable (p (.obj fields) ∧ EverywhereFields p fields))
  | .undefined => inferInstanceAs (Decidable (p .undefined))
  | .null => inferInstanceAs (Decidable (p .null))
  | .bool b => inferInstanceAs (Decidable (p (.bool b)))
  | .num x => inferInstanceAs (Decidable (p (.num x)))
  | .str s => inferInstanceAs (Decidable (p (.str s)))

/-- The same for the elements of an array. -/
def decEverywhereItems : ∀ vs : List Value, Decidable (EverywhereItems p vs)
  | [] => .isTrue trivial
  | v :: vs =>
    have := decEverywhere v
    have := decEverywhereItems vs
    inferInstanceAs (Decidable (Everywhere p v ∧ EverywhereItems p vs))

/-- The same for the members of an object. -/
def decEverywhereFields : ∀ fs : List (Text × Value), Decidable (EverywhereFields p fs)
  | [] => .isTrue trivial
  | (_, v) :: fs =>
    have := decEverywhere v
    have := decEverywhereFields fs
    inferInstanceAs (Decidable (Everywhere p v ∧ EverywhereFields p fs))

end

instance : DecidablePred (Everywhere p) := decEverywhere p

end Decide

/-- One node of a value that `JSON.parse` yields. -/
def JsonNode : Value → Prop
  | .undefined => False
  | .num x => x ≠ .nan
  | .obj fields => Ordered fields
  | _ => True

instance : DecidablePred JsonNode
  | .undefined => inferInstanceAs (Decidable False)
  | .num x => inferInstanceAs (Decidable (x ≠ .nan))
  | .obj fields => inferInstanceAs (Decidable (Ordered fields))
  | .null | .bool _ | .str _ | .arr _ => inferInstanceAs (Decidable True)

/-- What `JSON.parse` yields: nothing is `undefined` or NaN, and the members of every object are
distinct and in property order.  A numeral beyond the doubles is an infinity. -/
def IsJson (v : Value) : Prop := Everywhere JsonNode v

instance : DecidablePred IsJson := fun v => inferInstanceAs (Decidable (Everywhere JsonNode v))

theorem IsJson.ordered {fields : List (Text × Value)} (h : IsJson (.obj fields)) :
    Ordered fields :=
  Everywhere.here h

theorem IsJson.nodup {fields : List (Text × Value)} (h : IsJson (.obj fields)) :
    (fields.map Prod.fst).Nodup :=
  h.ordered.nodup

theorem IsJson.item {items : List Value} (h : IsJson (.arr items)) {v : Value} (hv : v ∈ items) :
    IsJson v :=
  (everywhere_arr.mp h).2 v hv

theorem IsJson.field {fields : List (Text × Value)} (h : IsJson (.obj fields))
    {f : Text × Value} (hf : f ∈ fields) : IsJson f.2 :=
  (everywhere_obj.mp h).2 f hf

/-- One node of an ECMAScript value: no key stands twice in an object. -/
def KeyedNode : Value → Prop
  | .obj fields => (fields.map Prod.fst).Nodup
  | _ => True

/-- What an ECMAScript value is, JSON or not: every object in it has distinct keys. -/
def Keyed (v : Value) : Prop := Everywhere KeyedNode v

theorem IsJson.keyed {v : Value} (h : IsJson v) : Keyed v :=
  h.imp fun u hu => by
    cases u with
    | obj fields => exact Ordered.nodup hu
    | _ => trivial

theorem Keyed.nodup {fields : List (Text × Value)} (h : Keyed (.obj fields)) :
    (fields.map Prod.fst).Nodup :=
  Everywhere.here h

theorem Everywhere.getPath {p : Value → Prop} : ∀ {ks : List String} {v : Value},
    Everywhere p v → v.getPath ks ≠ .undefined → (∀ k ∈ ks, arrayIndex (js k) = none) →
    (∀ k ∈ ks, k ≠ "length") → Everywhere p (v.getPath ks)
  | [], _, h, _, _, _ => h
  | k :: ks, v, h, hne, hidx, hlen => by
    have hk : v.get (js k) ≠ .undefined := by
      intro hu
      rw [getPath_cons, hu, getPath_undefined] at hne
      exact hne rfl
    obtain ⟨fields, rfl⟩ :=
      obj_of_get (js k) hk (by simpa using hlen k (by simp)) (hidx k (by simp))
    rw [get_obj] at hk
    cases hl : lookup (js k) fields with
    | none => exact absurd (by rw [hl]; rfl) hk
    | some w =>
      rw [getPath_cons, get_obj, hl] at hne ⊢
      exact (h.get hl).getPath hne (fun k' hk' => hidx k' (by simp [hk']))
        fun k' hk' => hlen k' (by simp [hk'])

/-! ## 3. Equality up to key order -/

mutual

/-- The two values differ at most in the order of object keys and in the sign of zeros. -/
def Same : Value → Value → Prop
  | .undefined, .undefined => True
  | .null, .null => True
  | .bool a, .bool b => a = b
  | .num x, .num y => x.normZero = y.normZero
  | .str s, .str t => s = t
  | .arr vs, .arr ws => SameItems vs ws
  | .obj fs, .obj gs => fs.length = gs.length ∧ SameFields fs gs
  | _, _ => False

/-- Elements agree place by place. -/
def SameItems : List Value → List Value → Prop
  | [], [] => True
  | v :: vs, w :: ws => Same v w ∧ SameItems vs ws
  | _, _ => False

/-- Every member of the first has its counterpart, under the same key, in the second. -/
def SameFields : List (Text × Value) → List (Text × Value) → Prop
  | [], _ => True
  | (k, v) :: fs, gs => (∃ w, lookup k gs = some w ∧ Same v w) ∧ SameFields fs gs

end

theorem sameItems_iff : ∀ {vs ws : List Value}, SameItems vs ws ↔ List.Forall₂ Same vs ws
  | [], [] => by simp [SameItems]
  | [], _ :: _ => by simp [SameItems]
  | _ :: _, [] => by simp [SameItems]
  | v :: vs, w :: ws => by rw [SameItems, sameItems_iff, List.forall₂_cons]

theorem sameFields_iff {gs : List (Text × Value)} : ∀ {fs : List (Text × Value)},
    SameFields fs gs ↔ ∀ f ∈ fs, ∃ w, lookup f.1 gs = some w ∧ Same f.2 w
  | [] => by simp [SameFields]
  | (k, v) :: fs => by rw [SameFields, sameFields_iff, List.forall_mem_cons]

theorem same_arr {vs ws : List Value} : Same (.arr vs) (.arr ws) ↔ List.Forall₂ Same vs ws := by
  rw [Same, sameItems_iff]

theorem same_obj {fs gs : List (Text × Value)} : Same (.obj fs) (.obj gs) ↔
    fs.length = gs.length ∧ ∀ f ∈ fs, ∃ w, lookup f.1 gs = some w ∧ Same f.2 w := by
  rw [Same, sameFields_iff]

end Value

/-! ## 4. What printing forgets -/

namespace Value

mutual

/-- The value a printed JSON value reads back as: zeros without sign, infinities as `null`. -/
def printed : Value → Value
  | .num x => if x.isFinite then .num x.normZero else .null
  | .arr items => .arr (printedItems items)
  | .obj fields => .obj (printedFields fields)
  | v => v

/-- `printed` for the elements of an array. -/
def printedItems : List Value → List Value
  | [] => []
  | v :: vs => printed v :: printedItems vs

/-- `printed` for the members of an object. -/
def printedFields : List (Text × Value) → List (Text × Value)
  | [] => []
  | (k, v) :: fs => (k, printed v) :: printedFields fs

end

theorem printedItems_eq : ∀ items : List Value, printedItems items = items.map printed
  | [] => rfl
  | v :: vs => by rw [printedItems, printedItems_eq vs, List.map_cons]

theorem printedFields_keys : ∀ fs : List (Text × Value),
    (printedFields fs).map Prod.fst = fs.map Prod.fst
  | [] => rfl
  | (k, v) :: fs => by rw [printedFields, List.map_cons, List.map_cons, printedFields_keys fs]

theorem text_normZero (x : Number) : x.normZero.text = x.text := by
  cases x with
  | finite x =>
    by_cases h : x.man = 0
    · simp [Number.normZero, Number.text, h, Binary64.zero]
    · simp [Number.normZero, h]
  | _ => rfl

theorem normZero_idem (x : Number) : x.normZero.normZero = x.normZero := by
  cases x with
  | finite x =>
    by_cases h : x.man = 0
    · simp [Number.normZero, h, Binary64.zero]
    · simp [Number.normZero, h]
  | _ => rfl

theorem isFinite_normZero (x : Number) : x.normZero.isFinite = x.isFinite := by
  cases x with
  | finite x => unfold Number.normZero; simp only; split <;> rfl
  | _ => rfl

/-- Property order is an order of keys. -/
theorem ordered_congr {fs gs : List (Text × Value)} (h : fs.map Prod.fst = gs.map Prod.fst)
    (hf : Ordered fs) : Ordered gs := by
  have hkeys : ∀ hs : List (Text × Value), Ordered hs ↔
      (hs.map Prod.fst).Pairwise fun a b => a ≠ b ∧ goesBefore b a = false := by
    intro hs
    rw [List.pairwise_map]
    rfl
  rw [hkeys] at hf ⊢
  rwa [← h]

mutual

theorem exact_printed : ∀ {v : Value}, IsJson v → Exact (printed v)
  | .undefined, h => absurd h (by decide)
  | .null, _ => trivial
  | .bool _, _ => trivial
  | .str _, _ => trivial
  | .num x, _ => by
    rw [printed]
    split
    · rename_i hx
      exact ⟨by rw [isFinite_normZero]; exact hx, normZero_idem x⟩
    · trivial
  | .arr items, h => exact_printedItems fun _ hv => h.item hv
  | .obj fields, h =>
    ⟨ordered_congr (printedFields_keys fields).symm h.ordered,
      exact_printedFields fun _ hf => h.field hf⟩

theorem exact_printedItems : ∀ {items : List Value}, (∀ v ∈ items, IsJson v) →
    ExactItems (printedItems items)
  | [], _ => trivial
  | v :: vs, h =>
    ⟨exact_printed (h v (by simp)), exact_printedItems fun w hw => h w (by simp [hw])⟩

theorem exact_printedFields : ∀ {fields : List (Text × Value)}, (∀ f ∈ fields, IsJson f.2) →
    ExactFields (printedFields fields)
  | [], _ => trivial
  | (k, v) :: fs, h =>
    ⟨exact_printed (h (k, v) (by simp)), exact_printedFields fun f hf => h f (by simp [hf])⟩

end

mutual

theorem stringify_printed : ∀ v : Value, stringify (printed v) = stringify v
  | .undefined => rfl
  | .null => rfl
  | .bool _ => rfl
  | .str _ => rfl
  | .num x => by
    rw [printed]
    cases hx : x.isFinite with
    | true => simp [stringify, hx, isFinite_normZero, text_normZero]
    | false => simp [stringify, hx]
  | .arr items => by rw [printed, stringify, stringify, itemTexts_printed items]
  | .obj fields => by rw [printed, stringify, stringify, memberTexts_printed fields]

theorem itemTexts_printed : ∀ items : List Value, itemTexts (printedItems items) = itemTexts items
  | [] => rfl
  | v :: vs => by rw [printedItems, itemTexts, itemTexts, stringify_printed v, itemTexts_printed vs]

theorem memberTexts_printed : ∀ fs : List (Text × Value),
    memberTexts (printedFields fs) = memberTexts fs
  | [] => rfl
  | (k, v) :: fs => by
    rw [printedFields, memberTexts, memberTexts, stringify_printed v, memberTexts_printed fs]

end

/-- JSON values with one text read back as one value. -/
theorem printed_eq_of_stringify {v w : Value} (hv : IsJson v) (hw : IsJson w)
    (h : stringify v = stringify w) : printed v = printed w := by
  obtain ⟨t, ht⟩ := stringify_of_exact (exact_printed hv)
  have ht' : stringify (printed w) = some t := by
    rw [stringify_printed, ← h, ← stringify_printed, ht]
  have h1 := parse_stringify (exact_printed hv) ht
  rw [parse_stringify (exact_printed hw) ht'] at h1
  exact (Option.some.inj h1).symm

theorem printed_eq_str {v : Value} {s : Text} : printed v = .str s ↔ v = .str s := by
  cases v with
  | num x => rw [printed]; split <;> simp
  | _ => simp [printed]

theorem map_printed_eq_str : ∀ {vs : List Value} {ts : List Text},
    vs.map printed = ts.map .str ↔ vs = ts.map .str
  | [], ts => by cases ts <;> simp
  | v :: vs, [] => by simp
  | v :: vs, t :: ts => by
    simp only [List.map_cons, List.cons.injEq, map_printed_eq_str, printed_eq_str]

/-- An array that prints like a list of strings is that list. -/
theorem eq_of_stringify_strings {ts : List Text} {vs : List Value} (hvs : IsJson (.arr vs))
    (h : stringify (.arr vs) = stringify (.arr (ts.map .str))) : vs = ts.map .str := by
  have hts : IsJson (.arr (ts.map .str)) :=
    everywhere_arr.mpr ⟨trivial, fun v hv => by
      obtain ⟨t, -, rfl⟩ := List.mem_map.mp hv
      trivial⟩
  have hp := printed_eq_of_stringify hvs hts h
  simp only [printed, printedItems_eq, Value.arr.injEq] at hp
  rw [map_printed_eq_str.mpr rfl] at hp
  exact map_printed_eq_str.mp hp

end Value

/-! ## 5. The code unit order -/

/-- Lexicographic comparison of code units, the order of `sort` without a comparator. -/
def codeUnitLe : Text → Text → Bool
  | [], _ => true
  | _ :: _, [] => false
  | u :: s, v :: t => u < v || (u == v && codeUnitLe s t)

theorem codeUnitLe_total : ∀ s t : Text, codeUnitLe s t = true ∨ codeUnitLe t s = true
  | [], _ => Or.inl rfl
  | _ :: _, [] => Or.inr rfl
  | u :: s, v :: t => by
    simp only [codeUnitLe, Bool.or_eq_true, Bool.and_eq_true, decide_eq_true_eq, beq_iff_eq]
    by_cases huv : u < v
    · exact Or.inl (Or.inl huv)
    · by_cases hvu : v < u
      · exact Or.inr (Or.inl hvu)
      · have heq : u = v := UInt16.le_antisymm (UInt16.not_lt.mp hvu) (UInt16.not_lt.mp huv)
        subst heq
        rcases codeUnitLe_total s t with h | h
        · exact Or.inl (Or.inr ⟨rfl, h⟩)
        · exact Or.inr (Or.inr ⟨rfl, h⟩)

theorem codeUnitLe_trans : ∀ {r s t : Text}, codeUnitLe r s = true → codeUnitLe s t = true →
    codeUnitLe r t = true
  | [], _, _, _, _ => rfl
  | _ :: _, [], _, h, _ => by simp [codeUnitLe] at h
  | _ :: _, _ :: _, [], _, h => by simp [codeUnitLe] at h
  | u :: r, v :: s, w :: t, h1, h2 => by
    simp only [codeUnitLe, Bool.or_eq_true, Bool.and_eq_true, decide_eq_true_eq, beq_iff_eq]
      at h1 h2 ⊢
    rcases h1 with h1 | ⟨rfl, h1⟩
    · rcases h2 with h2 | ⟨rfl, h2⟩
      · exact Or.inl (UInt16.lt_trans h1 h2)
      · exact Or.inl h1
    · rcases h2 with h2 | ⟨rfl, h2⟩
      · exact Or.inl h2
      · exact Or.inr ⟨rfl, codeUnitLe_trans h1 h2⟩

theorem codeUnitLe_antisymm : ∀ {s t : Text}, codeUnitLe s t = true → codeUnitLe t s = true → s = t
  | [], [], _, _ => rfl
  | [], _ :: _, _, h => by simp [codeUnitLe] at h
  | _ :: _, [], h, _ => by simp [codeUnitLe] at h
  | u :: s, v :: t, h1, h2 => by
    simp only [codeUnitLe, Bool.or_eq_true, Bool.and_eq_true, decide_eq_true_eq, beq_iff_eq]
      at h1 h2
    rcases h1 with h1 | ⟨rfl, h1⟩
    · rcases h2 with h2 | ⟨rfl, h2⟩
      · exact absurd (UInt16.lt_trans h1 h2) (UInt16.lt_irrefl u)
      · exact absurd h1 (UInt16.lt_irrefl _)
    · rcases h2 with h2 | ⟨-, h2⟩
      · exact absurd h2 (UInt16.lt_irrefl u)
      · rw [codeUnitLe_antisymm h1 h2]

section SortKeys

variable {α : Type}

/-- Members in the order of their keys. -/
def KeyLe (a b : Text × α) : Prop := codeUnitLe a.1 b.1 = true

instance : DecidableRel (KeyLe (α := α)) := fun a b =>
  inferInstanceAs (Decidable (codeUnitLe a.1 b.1 = true))

instance : Std.Total (KeyLe (α := α)) := ⟨fun a b => codeUnitLe_total a.1 b.1⟩

instance : IsTrans (Text × α) KeyLe := ⟨fun _ _ _ h1 h2 => codeUnitLe_trans h1 h2⟩

/-- The members of an object in the order `Object.keys(..).sort()` visits them. -/
def sortKeys (fs : List (Text × α)) : List (Text × α) := fs.insertionSort KeyLe

theorem sortKeys_perm (fs : List (Text × α)) : (sortKeys fs).Perm fs :=
  List.perm_insertionSort KeyLe fs

/-- The sort forgets the order it started from, if no key stands twice. -/
theorem sortKeys_eq_of_perm {fs gs : List (Text × α)} (hnd : (fs.map Prod.fst).Nodup)
    (h : fs.Perm gs) : sortKeys fs = sortKeys gs := by
  have hperm : (sortKeys fs).Perm (sortKeys gs) :=
    (sortKeys_perm fs).trans (h.trans (sortKeys_perm gs).symm)
  refine List.Perm.eq_of_pairwise ?_ (List.pairwise_insertionSort KeyLe fs)
    (List.pairwise_insertionSort KeyLe gs) hperm
  intro a b ha hb hab hba
  have hkey : a.1 = b.1 := codeUnitLe_antisymm hab hba
  have ha' : a ∈ fs := (sortKeys_perm fs).mem_iff.mp ha
  have hb' : b ∈ fs := h.mem_iff.mpr ((sortKeys_perm gs).mem_iff.mp hb)
  exact List.inj_on_of_nodup_map hnd ha' hb' hkey

theorem sortKeys_map {β : Type} (f : α → β) (fs : List (Text × α)) :
    sortKeys (fs.map fun p => (p.1, f p.2)) = (sortKeys fs).map fun p => (p.1, f p.2) :=
  (List.map_insertionSort KeyLe KeyLe (fun p : Text × α => (p.1, f p.2)) fs
    fun _ _ _ _ => Iff.rfl).symm

end SortKeys

end Ecma
