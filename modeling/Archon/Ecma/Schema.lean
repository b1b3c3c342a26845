/-
# Exact schemas, closed lists of names and counters

Code that does not trust an object it is given checks three things over and over: that its own
keys are the expected ones and no others (`exactKeys`), that a member is one of a closed list of
names (`Named`, `readNamed`), and that a counter is a safe integer that is not negative
(`Number.counter`).  Each has one lemma for the way back: an object literal with the expected
members passes (`exactKeys_object`), the name a value was written as is read as that value
(`readNamed_name`), and a small natural number is its own counter (`counter_ofNat`).
-/
import Archon.Ecma.Value

namespace Ecma

/-! ## 1. Guards -/

section

variable {ε : Type}

/-- `if (condition) throw e`. -/
def throwIf (condition : Bool) (e : ε) : Js ε Unit :=
  if condition then .error (.user e) else .ok ()

@[simp] theorem throwIf_eq_ok {condition : Bool} {e : ε} {u : Unit} :
    throwIf condition e = .ok u ↔ condition = false := by
  cases condition <;> simp [throwIf]

@[simp] theorem throwIf_false {e : ε} : throwIf false e = .ok () := rfl

@[simp] theorem throwIf_true {e : ε} : throwIf true e = .error (.user e) := rfl

/-- The value that was read, or a throw where nothing was. -/
def orThrow {α : Type} (read : Option α) (e : ε) : Js ε α :=
  match read with
  | some a => .ok a
  | none => .error (.user e)

@[simp] theorem orThrow_eq_ok {α : Type} {read : Option α} {e : ε} {a : α} :
    orThrow read e = .ok a ↔ read = some a := by
  cases read <;> simp [orThrow]

@[simp] theorem orThrow_some {α : Type} {a : α} {e : ε} : orThrow (some a) e = .ok a := rfl

end

/-! ## 2. Counters -/

namespace Binary64

theorem ulpExp_natCast_nonpos {n : Nat} (h : n < 2 ^ 53) : ulpExp n ≤ 0 := by
  rcases Nat.eq_zero_or_pos n with rfl | hn
  · simp [ulpExp]
  · have hpos : (0 : ℚ) < n := by exact_mod_cast hn
    have hlog : Int.log 2 (n : ℚ) < 53 := by
      rw [← Int.lt_zpow_iff_log_lt (by norm_num) hpos]
      exact_mod_cast h
    unfold ulpExp
    omega

/-- A natural number below `2 ^ 53` is a double. -/
theorem ofMagnitude_natCast {n : Nat} (h : n < 2 ^ 53) :
    ∃ x : Binary64, ofMagnitude false n = .finite x ∧ x.neg = false ∧ x.magnitude = n := by
  rcases Nat.eq_zero_or_pos n with rfl | hn
  · exact ⟨zero false, by simp [ofMagnitude], rfl, by simp [zero, magnitude]⟩
  · have hpos : (0 : ℚ) < n := by exact_mod_cast hn
    obtain ⟨k, hk⟩ : ∃ k : Nat, ulpExp (n : ℚ) = -(k : Int) :=
      ⟨(-ulpExp (n : ℚ)).toNat, by have := ulpExp_natCast_nonpos h; omega⟩
    have hscaled : (n : ℚ) / 2 ^ ulpExp (n : ℚ) = ((n * 2 ^ k : Nat) : ℚ) := by
      rw [hk, zpow_neg, zpow_natCast]
      push_cast
      field_simp
    have hsig : significand (n : ℚ) = n * 2 ^ k := by
      unfold significand
      rw [hscaled, roundHalfEven_natCast]
    have hlt : significand (n : ℚ) < 2 ^ 53 := by
      rw [hsig]
      have := scaled_lt (q := (n : ℚ))
      rw [hscaled] at this
      exact_mod_cast this
    have hexp : ulpExp (n : ℚ) ≤ 971 := by omega
    refine ⟨_, by rw [ofMagnitude, dif_pos hpos, dif_pos hlt, dif_pos hexp], rfl, ?_⟩
    have h2 : (2 : ℚ) ^ k ≠ 0 := by positivity
    simp only [magnitude, hsig, hk, zpow_neg, zpow_natCast]
    push_cast
    field_simp

end Binary64

/-- `Number.MAX_SAFE_INTEGER`. -/
def maxSafeInteger : Nat := 2 ^ 53 - 1

/-- The natural number a number denotes, if `Number.isSafeInteger(x)` and `x` is not below 0.
`-0` counts as 0. -/
def Number.counter : Number → Option Nat
  | .finite x =>
    if x.magnitude.den = 1 ∧ x.magnitude.num.toNat ≤ maxSafeInteger ∧ (x.neg → x.man = 0) then
      some x.magnitude.num.toNat
    else none
  | _ => none

theorem Number.counter_le {x : Number} {n : Nat} (h : x.counter = some n) : n ≤ maxSafeInteger := by
  cases x with
  | finite x =>
    simp only [counter] at h
    split at h
    · rename_i hx
      rw [← Option.some.inj h]
      exact hx.2.1
    · cases h
  | _ => cases h

@[simp] theorem Number.counter_ofNat {n : Nat} (h : n ≤ maxSafeInteger) :
    (Number.ofNat n).counter = some n := by
  obtain ⟨x, hx, hneg, hmag⟩ := Binary64.ofMagnitude_natCast (n := n)
    (by unfold maxSafeInteger at h; omega)
  rw [Number.ofNat, hx]
  simp [counter, hmag, hneg, h]

/-- The counter a value is, if it is one. -/
def Value.counter : Value → Option Nat
  | .num x => x.counter
  | _ => none

theorem Value.counter_le {v : Value} {n : Nat} (h : v.counter = some n) : n ≤ maxSafeInteger := by
  cases v with
  | num x => exact Number.counter_le h
  | _ => cases h

@[simp] theorem Value.counter_num_ofNat {n : Nat} (h : n ≤ maxSafeInteger) :
    (Value.num (.ofNat n)).counter = some n :=
  Number.counter_ofNat h

/-! ## 3. Exact schemas -/

/-- `v !== null && typeof v === "object" && !Array.isArray(v)`. -/
def Value.isRecord : Value → Bool
  | .obj _ => true
  | _ => false

/-- Are these the own keys of the object, each once and no others? -/
def Value.exactKeys (v : Value) (expected : List String) : Bool :=
  match v with
  | .obj fields =>
    decide (fields.length = expected.length)
      && fields.all (fun f => (expected.map js).contains f.1)
      && expected.all fun k => (lookup (js k) fields).isSome
  | _ => false

@[simp] theorem Value.isRecord_object (fields : List (String × Value)) :
    (object fields).isRecord = true := rfl

theorem Value.isRecord_of_exactKeys {v : Value} {expected : List String}
    (h : v.exactKeys expected = true) : v.isRecord = true := by
  cases v with
  | obj fields => rfl
  | _ => cases h

/-- An object literal whose members are the expected ones has exactly them. -/
theorem Value.exactKeys_object {fields : List (String × Value)} {expected : List String}
    (h : (fields.map Prod.fst).Perm expected) : (object fields).exactKeys expected = true := by
  simp only [exactKeys, object, Bool.and_eq_true, decide_eq_true_eq, List.all_eq_true,
    List.length_map, List.contains_iff_mem]
  refine ⟨⟨?_, ?_⟩, ?_⟩
  · simpa using h.length_eq
  · intro f hf
    obtain ⟨g, hg, rfl⟩ := List.mem_map.mp hf
    exact List.mem_map_of_mem (h.subset (List.mem_map_of_mem hg))
  · intro k hk
    obtain ⟨g, hg, rfl⟩ := List.mem_map.mp (h.symm.subset hk)
    rw [Option.isSome_iff_ne_none, ne_eq, lookup_eq_none, not_not]
    exact List.mem_map.mpr ⟨(js g.1, g.2), List.mem_map_of_mem hg, rfl⟩

/-! ## 4. Strings of a form and closed lists of names -/

/-- `typeof v === "string" && FORM.test(v)`, and the string. -/
def readText (form : Text → Bool) : Value → Option Text
  | .str t => if form t then some t else none
  | _ => none

theorem readText_iff {form : Text → Bool} {v : Value} {t : Text} :
    readText form v = some t ↔ v = .str t ∧ form t = true := by
  cases v with
  | str s =>
    simp only [readText, Value.str.injEq]
    split
    · rename_i h
      constructor
      · intro e
        obtain rfl := Option.some.inj e
        exact ⟨rfl, h⟩
      · rintro ⟨rfl, -⟩
        rfl
    · rename_i h
      constructor
      · intro e
        cases e
      · rintro ⟨rfl, ht⟩
        exact absurd ht h
  | _ => simp [readText]

theorem readText_str {form : Text → Bool} {t : Text} (h : form t = true) :
    readText form (.str t) = some t :=
  readText_iff.mpr ⟨rfl, h⟩

/-- A finite type whose values are written as names, different ones for different values. -/
class Named (α : Type) where
  all : List α
  name : α → String
  mem_all : ∀ a, a ∈ all
  name_inj : ∀ a b, name a = name b → a = b

section

variable {α : Type} [Named α]

/-- The value as the string it is written as. -/
def nameValue (a : α) : Value := Value.lit (Named.name a)

/-- `typeof v === "string" && NAMES.includes(v)`, and the name it is. -/
def readNamed (v : Value) : Option α := Named.all.find? fun a => v.isText (js (Named.name a))

@[simp] theorem readNamed_nameValue (a : α) : readNamed (nameValue a) = some a := by
  have hfound : (Named.all.find? fun b : α => (nameValue a).isText (js (Named.name b))).isSome := by
    rw [List.find?_isSome]
    exact ⟨a, Named.mem_all a, by simp [nameValue]⟩
  obtain ⟨b, hb⟩ := Option.isSome_iff_exists.mp hfound
  have hname : Named.name a = Named.name b := by
    simpa [nameValue] using List.find?_some hb
  rw [readNamed, hb, Named.name_inj a b hname]

/-- What is read was written so. -/
theorem eq_nameValue_of_readNamed {v : Value} {a : α} (h : readNamed v = some a) :
    v = nameValue a := by
  have hname : v.isText (js (Named.name a)) = true := by
    unfold readNamed at h
    exact (List.find?_eq_some_iff_append.mp h).1
  exact Value.isText_iff.mp hname

theorem readNamed_iff {v : Value} {a : α} : readNamed v = some a ↔ v = nameValue a := by
  constructor
  · exact eq_nameValue_of_readNamed
  · rintro rfl
    exact readNamed_nameValue a

@[simp] theorem nameValue_inj {a b : α} : nameValue a = nameValue b ↔ a = b := by
  constructor
  · intro h
    rw [← Option.some.injEq, ← readNamed_nameValue a, h, readNamed_nameValue]
  · rintro rfl
    rfl

/-- A name, or `null` for none. -/
def nullableName : Option α → Value
  | none => .null
  | some a => nameValue a

@[simp] theorem nullableName_none : nullableName (none : Option α) = .null := rfl

@[simp] theorem nullableName_some (a : α) : nullableName (some a) = nameValue a := rfl

/-- `v === null || (typeof v === "string" && NAMES.includes(v))`, and which it is. -/
def readNullable (v : Value) : Option (Option α) :=
  if v.strictEq .null then some none else (readNamed v : Option α).map some

@[simp] theorem readNullable_nullableName (a : Option α) : readNullable (nullableName a) = some a := by
  cases a with
  | none => simp [readNullable, nullableName, Value.strictEq]
  | some a =>
    have hne : (nameValue a).strictEq .null = false := rfl
    simp [readNullable, nullableName, hne]

end

end Ecma
