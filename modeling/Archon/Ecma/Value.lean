/-
# Values, property reads and the operators the checks use

A `Value` is what `JSON.parse` yields, with `undefined` beside it for a property that is absent.
The verifiers of the model are run on ARBITRARY values: a field that should be a string may be an
array, or missing.  So every read and every method call below says what the language does on a
receiver of the wrong type, and what throws is an `Except`.

Two points are not obvious from the names.

* `Value` is a tree.  Two objects at different places of a tree are different objects, so `===`
  and `SameValueZero` never identify two objects or two arrays (`strictEq`, `sameValueZero`).
* A value that came from `JSON.parse` carries its prototype's methods but no own functions, and
  the field names the model reads are not inherited from any prototype.  A property read is
  therefore a lookup among the own properties (`get`).
-/
import Archon.Ecma.Numeral

namespace Ecma

/-- A JSON value, or `undefined`.  The fields of an object stand in property order. -/
inductive Value where
  | undefined
  | null
  | bool (b : Bool)
  | num (x : Number)
  | str (s : Text)
  | arr (items : List Value)
  | obj (fields : List (Text × Value))

instance : Inhabited Value := ⟨.undefined⟩

/-- What a throw carries: the language's own `TypeError`, or an error of the program. -/
inductive Exn (ε : Type) where
  | typeError
  | user (e : ε)
deriving DecidableEq

/-- A computation of the language that may throw. -/
abbrev Js (ε : Type) := Except (Exn ε)

variable {ε : Type}

/-- A sequence that returns is two steps that return. -/
theorem bind_eq_ok {α β : Type} {x : Js ε α} {f : α → Js ε β} {r : β} :
    (x >>= f) = .ok r ↔ ∃ a, x = .ok a ∧ f a = .ok r := by
  rcases x with e | a <;> simp [bind, Except.bind]

@[simp] theorem ok_bind {α β : Type} {a : α} {f : α → Js ε β} :
    ((.ok a : Js ε α) >>= f) = f a := rfl

@[simp] theorem error_bind {α β : Type} {e : Exn ε} {f : α → Js ε β} :
    ((.error e : Js ε α) >>= f) = .error e := rfl

/-- A sequence that throws throws at one of its steps. -/
theorem bind_eq_error {α β : Type} {x : Js ε α} {f : α → Js ε β} {e : Exn ε} :
    (x >>= f) = .error e ↔ x = .error e ∨ ∃ a, x = .ok a ∧ f a = .error e := by
  cases x with
  | error e' => simp
  | ok a => simp

@[simp] theorem pure_eq_ok {α : Type} {a : α} : (pure a : Js ε α) = .ok a := rfl

/-- `true` only if both are, the second being evaluated only after the first. -/
theorem andM_eq_true {x y : Js ε Bool} :
    (x <&&> y) = .ok true ↔ x = .ok true ∧ y = .ok true := by
  rcases x with e | (_ | _) <;>
    simp [andM, ToBool.toBool, bind, Except.bind, pure, Except.pure]

/-- The left operand `true`: the value is the right operand's. -/
@[simp] theorem andM_ok_true {y : Js ε Bool} : ((.ok true : Js ε Bool) <&&> y) = y := rfl

/-- The left operand `false`: the right one is not evaluated. -/
@[simp] theorem andM_ok_false {y : Js ε Bool} : ((.ok false : Js ε Bool) <&&> y) = .ok false := rfl

@[simp] theorem andM_ok_ok (a b : Bool) : ((.ok a : Js ε Bool) <&&> .ok b) = .ok (a && b) := by
  cases a <;> rfl

@[simp] theorem andM_error {e : Exn ε} {y : Js ε Bool} :
    ((.error e : Js ε Bool) <&&> y) = .error e := rfl

/-! ## 1. Numbers -/

namespace Number

/-- Is this one of the two zeros? -/
def isZero : Number → Bool
  | .finite x => x.man == 0
  | _ => false

/-- `Number.isFinite`. -/
def isFinite : Number → Bool
  | .finite _ => true
  | _ => false

/-- `===` on numbers: NaN differs from itself, the zeros agree. -/
def strictEq (x y : Number) : Bool :=
  match x, y with
  | .nan, _ => false
  | _, .nan => false
  | x, y => (x.isZero && y.isZero) || decide (x = y)

theorem strictEq_self {x : Number} (h : x ≠ .nan) : x.strictEq x = true := by
  cases x with
  | nan => exact absurd rfl h
  | _ => simp [strictEq]

theorem ofNat_strictEq (n : Nat) : (ofNat n).strictEq (ofNat n) = true :=
  strictEq_self (Binary64.ofMagnitude_ne_nan _ _)

theorem isFinite_ofNat {n : Nat} (h : n < 2 ^ 53) : (ofNat n).isFinite = true := by
  have hq : (n : ℚ) < 2 ^ (1022 : ℤ) :=
    lt_trans (b := (2 : ℚ) ^ (53 : ℤ)) (by exact_mod_cast h)
      (zpow_lt_zpow_right₀ (by norm_num) (by norm_num))
  obtain ⟨x, hx⟩ := Binary64.ofMagnitude_finite false hq
  rw [ofNat, hx]
  rfl

/-- `SameValueZero` on numbers: as `===`, but NaN is itself. -/
def sameValueZero (x y : Number) : Bool := decide (x = y) || strictEq x y

/-- `x >= n`. -/
def atLeast (x : Number) (n : Nat) : Bool :=
  match x with
  | .nan => false
  | .infinity neg => !neg
  | .finite x => decide ((n : ℚ) ≤ if x.neg then -x.magnitude else x.magnitude)

/-- `x > n`. -/
def exceeds (x : Number) (n : Nat) : Bool :=
  match x with
  | .nan => false
  | .infinity neg => !neg
  | .finite x => decide ((n : ℚ) < if x.neg then -x.magnitude else x.magnitude)

end Number

/-! ## 2. Property reads -/

/-- The first own property of that name. -/
def lookup (key : Text) : List (Text × Value) → Option Value
  | [] => none
  | (k, v) :: fs => if k = key then some v else lookup key fs

@[simp] theorem lookup_nil (key : Text) : lookup key [] = none := rfl

@[simp] theorem lookup_cons (key k : Text) (v : Value) (fs : List (Text × Value)) :
    lookup key ((k, v) :: fs) = if k = key then some v else lookup key fs := rfl

theorem mem_of_lookup {key : Text} {v : Value} : ∀ {fs : List (Text × Value)},
    lookup key fs = some v → (key, v) ∈ fs
  | [], h => by simp at h
  | (k, w) :: fs, h => by
    simp only [lookup_cons] at h
    split at h
    · rename_i hk
      obtain rfl : w = v := by simpa using h
      simp [hk]
    · exact List.mem_cons_of_mem _ (mem_of_lookup h)

theorem lookup_of_mem {key : Text} {v : Value} : ∀ {fs : List (Text × Value)},
    (fs.map Prod.fst).Nodup → (key, v) ∈ fs → lookup key fs = some v
  | (k, w) :: fs, hnd, hm => by
    simp only [List.map_cons, List.nodup_cons] at hnd
    simp only [lookup_cons]
    rcases List.mem_cons.mp hm with h | h
    · obtain ⟨rfl, rfl⟩ := Prod.mk.inj h
      simp
    · rw [if_neg, lookup_of_mem hnd.2 h]
      rintro rfl
      exact hnd.1 (List.mem_map.mpr ⟨_, h, rfl⟩)

theorem lookup_eq_none {key : Text} : ∀ {fs : List (Text × Value)},
    lookup key fs = none ↔ key ∉ fs.map Prod.fst
  | [] => by simp
  | (k, v) :: fs => by
    simp only [lookup_cons, List.map_cons, List.mem_cons, not_or]
    split
    · rename_i h; simp [h]
    · rename_i h; rw [lookup_eq_none]; exact ⟨fun hn => ⟨fun e => h e.symm, hn⟩, fun hn => hn.2⟩

namespace Value

/-- `undefined` and `null`, on which every property read throws. -/
def isNullish : Value → Bool
  | .undefined => true
  | .null => true
  | _ => false

/-- The property read, once the receiver is known not to be nullish. -/
def get (v : Value) (key : Text) : Value :=
  match v with
  | .obj fields => (lookup key fields).getD .undefined
  | .arr items =>
    if key = js "length" then .num (.ofNat items.length)
    else match arrayIndex key with
      | some i => items.getD i .undefined
      | none => .undefined
  | .str s =>
    if key = js "length" then .num (.ofNat s.length)
    else match arrayIndex key with
      | some i => (s[i]?.map fun u => Value.str [u]).getD .undefined
      | none => .undefined
  | _ => .undefined

@[simp] theorem get_obj (fields : List (Text × Value)) (key : Text) :
    (obj fields).get key = (lookup key fields).getD .undefined := rfl

/-- `v.key`. -/
def prop (v : Value) (key : String) : Js ε Value :=
  if v.isNullish then .error .typeError else .ok (v.get (js key))

@[simp] theorem prop_obj (fields : List (Text × Value)) (key : String) :
    ((obj fields).prop key : Js ε Value) = .ok ((obj fields).get (js key)) := rfl

theorem prop_of_not_nullish {v : Value} (h : v.isNullish = false) (key : String) :
    (v.prop key : Js ε Value) = .ok (v.get (js key)) := by
  simp [prop, h]

theorem prop_eq_ok {v w : Value} {key : String} :
    (v.prop key : Js ε Value) = .ok w ↔ v.isNullish = false ∧ v.get (js key) = w := by
  unfold prop
  cases v.isNullish <;> simp

/-- `v.k₁.k₂…`, a chain of property reads. -/
def path (v : Value) : List String → Js ε Value
  | [] => .ok v
  | k :: ks => do (← v.prop k).path ks

/-- The value at the end of the chain; `undefined` where a read would throw. -/
def getPath (v : Value) : List String → Value
  | [] => v
  | k :: ks => (v.get (js k)).getPath ks

theorem getPath_nil (v : Value) : v.getPath [] = v := rfl

theorem getPath_cons (v : Value) (k : String) (ks : List String) :
    v.getPath (k :: ks) = (v.get (js k)).getPath ks := rfl

theorem getPath_pair (v : Value) (k l : String) : v.getPath [k, l] = (v.getPath [k]).get (js l) := rfl

theorem getPath_head (v : Value) (k : String) (ks : List String) :
    v.getPath (k :: ks) = (v.getPath [k]).getPath ks := rfl

@[simp] theorem get_length_arr (items : List Value) :
    (arr items).get (js "length") = .num (.ofNat items.length) := by
  simp [get]

theorem getPath_of_path : ∀ {ks : List String} {v w : Value},
    (v.path ks : Js ε Value) = .ok w → v.getPath ks = w
  | [], _, _, h => Except.ok.inj h
  | k :: ks, v, w, h => by
    obtain ⟨u, hu, h⟩ := bind_eq_ok.mp h
    obtain ⟨-, rfl⟩ := prop_eq_ok.mp hu
    exact @getPath_of_path ks _ _ h

theorem get_of_isNullish {v : Value} (h : v.isNullish = true) (key : Text) :
    v.get key = .undefined := by
  cases v <;> first | rfl | simp [isNullish] at h

theorem getPath_undefined : ∀ ks : List String, getPath .undefined ks = .undefined
  | [] => rfl
  | _ :: ks => getPath_undefined ks

/-- A chain that ends in something has not thrown. -/
theorem path_of_getPath : ∀ {ks : List String} {v : Value}, v.getPath ks ≠ .undefined →
    (v.path ks : Js ε Value) = .ok (v.getPath ks)
  | [], _, _ => rfl
  | k :: ks, v, h => by
    cases hn : v.isNullish with
    | true =>
      rw [getPath_cons, get_of_isNullish hn] at h
      exact absurd (getPath_undefined ks) h
    | false =>
      rw [path, prop_of_not_nullish hn]
      exact @path_of_getPath ks _ h

/-- `v[i]` for a numeral `i`, the receiver not nullish. -/
def nth (v : Value) (i : Nat) : Value :=
  match v with
  | .arr items => items.getD i .undefined
  | .str s => (s[i]?.map fun u => Value.str [u]).getD .undefined
  | .obj fields => (lookup (decimalText i) fields).getD .undefined
  | _ => .undefined

/-- `v[i]`. -/
def index (v : Value) (i : Nat) : Js ε Value :=
  if v.isNullish then .error .typeError else .ok (v.nth i)

@[simp] theorem index_arr (items : List Value) (i : Nat) :
    ((arr items).index i : Js ε Value) = .ok (items.getD i .undefined) := rfl

theorem index_eq_ok {v w : Value} {i : Nat} :
    (v.index i : Js ε Value) = .ok w ↔ v.isNullish = false ∧ v.nth i = w := by
  unfold index
  cases v.isNullish <;> simp

/-- An object literal. -/
def object (fields : List (String × Value)) : Value := .obj (fields.map fun f => (js f.1, f.2))

theorem lookup_map_js (key : String) : ∀ fields : List (String × Value),
    Ecma.lookup (js key) (fields.map fun f => (js f.1, f.2)) = fields.lookup key
  | [] => rfl
  | (k, v) :: fs => by
    rw [List.map_cons, lookup_cons, lookup_map_js key fs, List.lookup_cons]
    by_cases h : k = key
    · simp [h]
    · rw [if_neg (by simpa using h), beq_false_of_ne (Ne.symm h)]

/-- Reading a member of an object literal. -/
@[simp] theorem get_object (fields : List (String × Value)) (key : String) :
    (object fields).get (js key) = (fields.lookup key).getD .undefined := by
  rw [object, get_obj, lookup_map_js]

@[simp] theorem isNullish_object (fields : List (String × Value)) :
    (object fields).isNullish = false := rfl

@[simp] theorem object_ne_undefined (fields : List (String × Value)) :
    object fields ≠ .undefined := by
  simp [object]

@[simp] theorem prop_object (fields : List (String × Value)) (key : String) :
    ((object fields).prop key : Js ε Value) = .ok ((fields.lookup key).getD .undefined) := by
  rw [prop_of_not_nullish rfl, get_object]

/-- A string literal. -/
def lit (s : String) : Value := .str (js s)

/-! ## 3. Operators and coercions -/

/-- `Boolean(v)`. -/
def truthy : Value → Bool
  | .undefined => false
  | .null => false
  | .bool b => b
  | .num x => !(x == .nan || x.isZero)
  | .str s => !s.isEmpty
  | .arr _ => true
  | .obj _ => true

/-- `a === b`.  Objects and arrays at two places of a tree are two objects. -/
def strictEq : Value → Value → Bool
  | .undefined, .undefined => true
  | .null, .null => true
  | .bool a, .bool b => a == b
  | .num x, .num y => x.strictEq y
  | .str s, .str t => decide (s = t)
  | _, _ => false

@[simp] theorem str_strictEq_str (s t : Text) : (str s).strictEq (str t) = decide (s = t) := rfl

@[simp] theorem bool_strictEq_bool (a b : Bool) : (Value.bool a).strictEq (Value.bool b) = (a == b) :=
  rfl

@[simp] theorem ofNat_strictEq_ofNat (n : Nat) :
    (num (.ofNat n)).strictEq (num (.ofNat n)) = true :=
  Number.ofNat_strictEq n

/-- `SameValueZero`, the comparison of `Array.prototype.includes` and of `Set`. -/
def sameValueZero : Value → Value → Bool
  | .num x, .num y => x.sameValueZero y
  | a, b => strictEq a b

@[simp] theorem str_sameValueZero_str (s t : Text) :
    (str s).sameValueZero (str t) = decide (s = t) := rfl

@[simp] theorem lit_sameValueZero_lit (s t : String) :
    (lit s).sameValueZero (lit t) = decide (s = t) := by
  simp [lit]

/-- `v === "s"`. -/
def isText (v : Value) (s : Text) : Bool := strictEq v (.str s)

theorem strictEq_str {v : Value} {s : Text} : strictEq v (.str s) = true ↔ v = .str s := by
  cases v <;> simp [strictEq]

theorem str_strictEq {v : Value} {s : Text} : strictEq (.str s) v = true ↔ v = .str s := by
  cases v <;> simp [strictEq, eq_comm]

theorem isText_iff {v : Value} {s : Text} : v.isText s = true ↔ v = .str s := strictEq_str

@[simp] theorem truthy_object (fields : List (String × Value)) : (object fields).truthy = true :=
  rfl

@[simp] theorem isText_str (s t : Text) : (str s).isText t = decide (s = t) := rfl

@[simp] theorem isText_lit (s t : String) : (lit s).isText (js t) = decide (s = t) := by
  simp [lit]

theorem strictEq_bool {v : Value} {b : Bool} : strictEq v (.bool b) = true ↔ v = .bool b := by
  cases v <;> simp [strictEq]

/-- `x === "s"`, `x` being evaluated. -/
def eqText (x : Js ε Value) (s : Text) : Js ε Bool := do return (← x).isText s

/-- `x === y`, both being evaluated. -/
def eqValue (x y : Js ε Value) : Js ε Bool := do
  let a ← x
  let b ← y
  return a.strictEq b

theorem eqText_eq_true {x : Js ε Value} {s : Text} : eqText x s = .ok true ↔ x = .ok (.str s) := by
  rcases x with e | v
  · simp [eqText]
  · simp [eqText, isText_iff]

theorem eqValue_of_str {x y : Js ε Value} {s : Text} (hx : x = .ok (.str s)) (hy : y = .ok (.str s)) :
    eqValue x y = .ok true := by
  simp [eqValue, hx, hy]

theorem eqValue_eq_true {x y : Js ε Value} :
    eqValue x y = .ok true ↔ ∃ a b, x = .ok a ∧ y = .ok b ∧ strictEq a b = true := by
  rcases x with e | v
  · simp [eqValue]
  · rcases y with e | w <;> simp [eqValue]

/-- `typeof v === "string"`. -/
def isStr : Value → Bool
  | .str _ => true
  | _ => false

/-- `Array.isArray(v)`. -/
def isArr : Value → Bool
  | .arr _ => true
  | _ => false

mutual

/-- `String(v)`.  An own `toString` of a JSON value is not callable, so an object that has one
cannot be converted; every other object prints its class. -/
def toText : Value → Js ε Text
  | .undefined => .ok (js "undefined")
  | .null => .ok (js "null")
  | .bool b => .ok (if b then js "true" else js "false")
  | .num x => .ok x.text
  | .str s => .ok s
  | .arr items => do return [0x2C].intercalate (← toTexts items)
  | .obj fields =>
    if (lookup (js "toString") fields).isSome then .error .typeError
    else .ok (js "[object Object]")

/-- The elements of an array as `join` prints them: nullish ones are empty. -/
def toTexts : List Value → Js ε (List Text)
  | [] => .ok []
  | v :: vs => do
    let t ← if v.isNullish then .ok [] else toText v
    return t :: (← toTexts vs)

end

@[simp] theorem toText_str (s : Text) : (toText (str s) : Js ε Text) = .ok s := by
  simp [toText]

/-- `Number(v)`. -/
def toNumber : Value → Js ε Number
  | .undefined => .ok .nan
  | .null => .ok (.ofNat 0)
  | .bool b => .ok (.ofNat b.toNat)
  | .num x => .ok x
  | .str s => .ok (Number.ofText s)
  | v => do return Number.ofText (← v.toText)

/-- `v >= n`. -/
def atLeast (v : Value) (n : Nat) : Js ε Bool := do return (← v.toNumber).atLeast n

/-- `v > n`. -/
def exceeds (v : Value) (n : Nat) : Js ε Bool := do return (← v.toNumber).exceeds n

/-- Only an object has members that are not elements or units. -/
theorem obj_of_get {v : Value} (key : Text) (h : v.get key ≠ .undefined)
    (hlen : key ≠ js "length") (hidx : arrayIndex key = none) : ∃ fields, v = .obj fields := by
  cases v with
  | obj fields => exact ⟨fields, rfl⟩
  | arr items => exact absurd (by simp [get, hlen, hidx]) h
  | str s => exact absurd (by simp [get, hlen, hidx]) h
  | _ => exact absurd rfl h

theorem truthy_of_get {v : Value} (key : Text) (h : v.get key ≠ .undefined)
    (hlen : key ≠ js "length") (hidx : arrayIndex key = none) : v.truthy = true := by
  obtain ⟨fields, rfl⟩ := obj_of_get key h hlen hidx
  rfl

/-! ## 4. Arrays, iterables and own properties -/

/-- The code points of a text, each as a text: what iterating a string yields. -/
def codePoints : Text → List Text
  | [] => []
  | [u] => [[u]]
  | u :: v :: t => if isHigh u && isLow v then [u, v] :: codePoints t else [u] :: codePoints (v :: t)

/-- `[...v]`. -/
def spread : Value → Js ε (List Value)
  | .arr items => .ok items
  | .str s => .ok ((codePoints s).map .str)
  | _ => .error .typeError

@[simp] theorem spread_arr (items : List Value) : (spread (arr items) : Js ε _) = .ok items := rfl

/-- `v.includes(x)`, on an array or on a string. -/
def includes (v x : Value) : Js ε Bool :=
  match v with
  | .arr items => .ok (items.any fun y => sameValueZero y x)
  | .str s => do return occursIn (← x.toText) s
  | _ => .error .typeError

/-- `v.every(p)`, on an array: up to the first element that fails. -/
def every (v : Value) (p : Value → Js ε Bool) : Js ε Bool :=
  match v with
  | .arr items => items.foldr (fun x rest => p x <&&> rest) (.ok true)
  | _ => .error .typeError

theorem every_arr_eq_true {items : List Value} {p : Value → Js ε Bool} :
    (arr items).every p = .ok true ↔ ∀ v ∈ items, p v = .ok true := by
  simp only [every]
  induction items with
  | nil => simp
  | cons v vs ih => rw [List.foldr_cons, andM_eq_true, ih, List.forall_mem_cons]

/-- `v.length`, where the receiver is not nullish. -/
def length (v : Value) : Value := v.get (js "length")

/-- The own enumerable properties, in property order. -/
def entries : Value → List (Text × Value)
  | .obj fields => fields
  | .arr items => items.zipIdx.map fun p => (decimalText p.2, p.1)
  | .str s => s.zipIdx.map fun p => (decimalText p.2, .str [p.1])
  | _ => []

/-- `rest` in `const { key₁, .., keyₙ, ...rest } = v`. -/
def rest (v : Value) (keys : List String) : Value :=
  .obj (v.entries.filter fun e => !(keys.map js).contains e.1)

theorem lookup_filter {q : Text × Value → Bool} {key : Text} : ∀ {fs : List (Text × Value)},
    (∀ v, q (key, v) = true) → Ecma.lookup key (fs.filter q) = Ecma.lookup key fs
  | [], _ => rfl
  | (k, v) :: fs, h => by
    rw [List.filter_cons]
    by_cases hk : k = key
    · subst hk
      rw [if_pos (h v), lookup_cons, lookup_cons, if_pos rfl, if_pos rfl]
    · rw [lookup_cons, if_neg hk, ← @lookup_filter _ _ fs h]
      split
      · rw [lookup_cons, if_neg hk]
      · rfl

/-- The destructuring leaves the other members as they are. -/
theorem get_rest (fields : List (Text × Value)) {keys : List String} {key : String}
    (h : key ∉ keys) : ((obj fields).rest keys).get (js key) = (obj fields).get (js key) := by
  rw [rest, entries, get_obj, get_obj, lookup_filter]
  intro v
  simpa using h

/-- The destructuring itself, which throws on a nullish value. -/
def without (v : Value) (keys : List String) : Js ε Value :=
  if v.isNullish then .error .typeError else .ok (v.rest keys)

theorem without_eq_ok {v w : Value} {keys : List String} :
    (v.without keys : Js ε Value) = .ok w ↔ v.isNullish = false ∧ v.rest keys = w := by
  unfold without
  cases v.isNullish <;> simp

theorem rest_object (fields : List (String × Value)) (keys : List String) :
    (object fields).rest keys = object (fields.filter fun f => !keys.contains f.1) := by
  have hkey : ∀ k : String, (keys.map js).contains (js k) = keys.contains k := by
    intro k
    rw [Bool.eq_iff_iff, List.contains_iff_mem, List.contains_iff_mem]
    simp
  simp only [rest, entries, object, List.filter_map, Function.comp_def, hkey]

/-- `[...new Set(vs)]`: the first of each class of equal elements. -/
def dedup : List Value → List Value
  | [] => []
  | v :: vs => v :: (dedup vs).filter fun w => !sameValueZero v w

/-- The texts of a list of strings, if every element is one. -/
def asTexts : List Value → Option (List Text)
  | [] => some []
  | .str s :: vs => (asTexts vs).map (s :: ·)
  | _ :: _ => none

end Value

end Ecma
