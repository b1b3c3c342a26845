/-
# Finite doubles, correct rounding, and the shortest decimal

ECMAScript has one number type, the IEEE 754 double.  A JSON text meets it twice: `JSON.parse`
rounds a decimal to the nearest double, and `JSON.stringify` prints the SHORTEST decimal that
rounds back.  This file settles the one fact about the pair that a canonical text rests on:
printing and reading is the identity (`ofMagnitude_shortest`).

* `Binary64` is a finite double as sign, significand and exponent; the `canonical` field rules
  out two spellings of one number.
* `ofMagnitude` rounds a non-negative rational half to even, with overflow to infinity.
  `ofMagnitude_magnitude`: a double's own magnitude is not moved.
* `shortest` searches the digit counts from one up, as `Number::toString` asks, and keeps a
  candidate only after rounding it back.  Seventeen digits are always enough, so its last
  branch (the exact expansion) is never taken; it is there so that no existence proof is needed.
-/
import Mathlib.Data.Int.Log
import Mathlib.Data.Rat.Floor
import Mathlib.Algebra.Order.Field.Power
import Mathlib.Tactic.Linarith
import Mathlib.Tactic.NormNum
import Mathlib.Tactic.Positivity
import Mathlib.Tactic.FieldSimp
import Mathlib.Tactic.Ring

namespace Ecma

/-! ## 1. Finite doubles -/

/-- The significand and exponent of a finite double: 53 bits, and fewer only at the least
exponent. -/
def Canonical (man : Nat) (exp : Int) : Prop :=
  man < 2 ^ 53 ∧ -1074 ≤ exp ∧ exp ≤ 971 ∧ (man < 2 ^ 52 → exp = -1074)

instance (man : Nat) (exp : Int) : Decidable (Canonical man exp) := by
  unfold Canonical; infer_instance

/-- A finite double, `± man * 2 ^ exp`.  Zero keeps its sign. -/
structure Binary64 where
  neg : Bool
  man : Nat
  exp : Int
  canonical : Canonical man exp
deriving DecidableEq

/-- The double type: finite, infinite or NaN. -/
inductive Number where
  | nan
  | infinity (neg : Bool)
  | finite (x : Binary64)
deriving DecidableEq

namespace Binary64

/-- The magnitude as a rational. -/
def magnitude (x : Binary64) : ℚ := x.man * 2 ^ x.exp

/-- `+0` and `-0`. -/
def zero (neg : Bool) : Binary64 := ⟨neg, 0, -1074, by decide⟩

theorem ext_of {x y : Binary64} (h₁ : x.neg = y.neg) (h₂ : x.man = y.man) (h₃ : x.exp = y.exp) :
    x = y := by
  cases x; cases y; simp_all

theorem eq_zero_of_man {x : Binary64} (h : x.man = 0) : x = zero x.neg := by
  have hexp : x.exp = -1074 := x.canonical.2.2.2 (by rw [h]; decide)
  exact ext_of rfl h hexp

/-! ## 2. Rounding a rational -/

/-- Round half to even. -/
def roundHalfEven (q : ℚ) : Nat :=
  let f := ⌊q⌋₊
  if q - f < 1 / 2 then f
  else if 1 / 2 < q - f then f + 1
  else if f % 2 = 0 then f else f + 1

theorem roundHalfEven_natCast (n : Nat) : roundHalfEven (n : ℚ) = n := by
  simp [roundHalfEven]

theorem floor_le_roundHalfEven (q : ℚ) : ⌊q⌋₊ ≤ roundHalfEven q := by
  unfold roundHalfEven
  simp only
  split_ifs <;> omega

/-- The exponent of the last significand bit of the doubles around `q`. -/
def ulpExp (q : ℚ) : Int := max (-1074) (Int.log 2 q - 52)

theorem scaled_lt {q : ℚ} : q / 2 ^ ulpExp q < 2 ^ 53 := by
  have h2 : (0 : ℚ) < 2 ^ ulpExp q := by positivity
  rw [div_lt_iff₀ h2]
  have hlog : q < (2 : ℚ) ^ (Int.log 2 q + 1) := by
    exact_mod_cast Int.lt_zpow_succ_log_self (b := 2) (by norm_num) q
  have hle : (2 : ℚ) ^ (Int.log 2 q + 1) ≤ 2 ^ (53 + ulpExp q) := by
    refine zpow_le_zpow_right₀ (by norm_num) ?_
    unfold ulpExp; omega
  calc q < (2 : ℚ) ^ (Int.log 2 q + 1) := hlog
    _ ≤ 2 ^ (53 + ulpExp q) := hle
    _ = 2 ^ 53 * 2 ^ ulpExp q := by rw [zpow_add₀ (by norm_num)]; norm_num

theorem le_scaled {q : ℚ} (hq : 0 < q) (h : ulpExp q ≠ -1074) :
    2 ^ 52 ≤ q / 2 ^ ulpExp q := by
  have h2 : (0 : ℚ) < 2 ^ ulpExp q := by positivity
  have he : ulpExp q = Int.log 2 q - 52 := by unfold ulpExp at h ⊢; omega
  rw [le_div_iff₀ h2]
  have hlog : (2 : ℚ) ^ Int.log 2 q ≤ q := by
    exact_mod_cast Int.zpow_log_le_self (b := 2) (by norm_num) hq
  calc (2 : ℚ) ^ 52 * 2 ^ ulpExp q = 2 ^ (52 + ulpExp q) := by
        rw [zpow_add₀ (by norm_num)]; norm_num
    _ = 2 ^ Int.log 2 q := by rw [he]; congr 1; omega
    _ ≤ q := hlog

/-- The rounded significand, before a carry is folded into the exponent. -/
def significand (q : ℚ) : Nat := roundHalfEven (q / 2 ^ ulpExp q)

theorem le_significand {q : ℚ} (hq : 0 < q) (h : ulpExp q ≠ -1074) : 2 ^ 52 ≤ significand q := by
  have hle : 2 ^ 52 ≤ ⌊q / 2 ^ ulpExp q⌋₊ := by
    apply Nat.le_floor
    exact_mod_cast le_scaled hq h
  exact hle.trans (floor_le_roundHalfEven _)

theorem canonical_significand {q : ℚ} (hq : 0 < q) (hlt : significand q < 2 ^ 53)
    (hexp : ulpExp q ≤ 971) : Canonical (significand q) (ulpExp q) := by
  refine ⟨hlt, le_max_left _ _, hexp, ?_⟩
  intro hsmall
  by_contra hne
  exact absurd (le_significand hq hne) (by omega)

theorem canonical_carry {q : ℚ} (hexp : ulpExp q + 1 ≤ 971) :
    Canonical (2 ^ 52) (ulpExp q + 1) :=
  ⟨by norm_num, by unfold ulpExp; omega, hexp, fun h => absurd h (by norm_num)⟩

/-- The double nearest to a non-negative rational, with the given sign; ties go to the even
significand, and a magnitude past the largest double is an infinity. -/
def ofMagnitude (neg : Bool) (q : ℚ) : Number :=
  if hq : 0 < q then
    if hlt : significand q < 2 ^ 53 then
      if hexp : ulpExp q ≤ 971 then
        .finite ⟨neg, significand q, ulpExp q, canonical_significand hq hlt hexp⟩
      else .infinity neg
    else if hexp : ulpExp q + 1 ≤ 971 then
      .finite ⟨neg, 2 ^ 52, ulpExp q + 1, canonical_carry hexp⟩
    else .infinity neg
  else .finite (zero neg)

theorem ofMagnitude_ne_nan (neg : Bool) (q : ℚ) : ofMagnitude neg q ≠ .nan := by
  unfold ofMagnitude
  split_ifs <;> simp

/-- Far below the largest double nothing is rounded to an infinity. -/
theorem ofMagnitude_finite (neg : Bool) {q : ℚ} (h : q < 2 ^ (1022 : ℤ)) :
    ∃ x, ofMagnitude neg q = .finite x := by
  have hlog : 0 < q → Int.log 2 q < 1022 := fun hq => by
    rw [← Int.lt_zpow_iff_log_lt (by norm_num) hq]
    exact_mod_cast h
  unfold ofMagnitude
  split_ifs with hq hlt hexp hexp
  · exact ⟨_, rfl⟩
  · exact absurd hexp (by have := hlog hq; unfold ulpExp; omega)
  · exact ⟨_, rfl⟩
  · exact absurd hexp (by have := hlog hq; unfold ulpExp; omega)
  · exact ⟨_, rfl⟩

theorem ulpExp_magnitude {x : Binary64} (hm : x.man ≠ 0) : ulpExp x.magnitude = x.exp := by
  obtain ⟨hlt, hmin, -, hsub⟩ := x.canonical
  have hpos : 0 < x.magnitude := by
    unfold magnitude
    have : (0 : ℚ) < x.man := by exact_mod_cast Nat.pos_of_ne_zero hm
    positivity
  have hup : Int.log 2 x.magnitude < 53 + x.exp := by
    rw [← Int.lt_zpow_iff_log_lt (by norm_num) hpos]
    unfold magnitude
    push_cast
    rw [zpow_add₀ (by norm_num)]
    have : (x.man : ℚ) < 2 ^ (53 : ℤ) := by exact_mod_cast hlt
    exact mul_lt_mul_of_pos_right this (by positivity)
  by_cases hnorm : x.man < 2 ^ 52
  · have := hsub hnorm
    have hup' : Int.log 2 x.magnitude < 52 + x.exp := by
      rw [← Int.lt_zpow_iff_log_lt (by norm_num) hpos]
      unfold magnitude
      push_cast
      rw [zpow_add₀ (by norm_num)]
      have : (x.man : ℚ) < 2 ^ (52 : ℤ) := by exact_mod_cast hnorm
      exact mul_lt_mul_of_pos_right this (by positivity)
    unfold ulpExp; omega
  · have hlow : 52 + x.exp ≤ Int.log 2 x.magnitude := by
      rw [← Int.zpow_le_iff_le_log (by norm_num) hpos]
      unfold magnitude
      push_cast
      rw [zpow_add₀ (by norm_num)]
      have : (2 : ℚ) ^ (52 : ℤ) ≤ x.man := by exact_mod_cast not_lt.mp hnorm
      exact mul_le_mul_of_nonneg_right this (by positivity)
    unfold ulpExp; omega

theorem significand_magnitude {x : Binary64} (hm : x.man ≠ 0) :
    significand x.magnitude = x.man := by
  unfold significand
  rw [ulpExp_magnitude hm]
  have : x.magnitude / 2 ^ x.exp = x.man := by
    unfold magnitude
    have : (2 : ℚ) ^ x.exp ≠ 0 := by positivity
    field_simp
  rw [this, roundHalfEven_natCast]

/-- Rounding does not move a double: its own magnitude rounds to it. -/
theorem ofMagnitude_magnitude (x : Binary64) : ofMagnitude x.neg x.magnitude = .finite x := by
  by_cases hm : x.man = 0
  · have hz : x.magnitude = 0 := by simp [magnitude, hm]
    rw [hz, ofMagnitude, dif_neg (lt_irrefl 0), ← eq_zero_of_man hm]
  · have hpos : 0 < x.magnitude := by
      unfold magnitude
      have : (0 : ℚ) < x.man := by exact_mod_cast Nat.pos_of_ne_zero hm
      positivity
    have hs := significand_magnitude hm
    have he := ulpExp_magnitude hm
    have hlt : significand x.magnitude < 2 ^ 53 := by rw [hs]; exact x.canonical.1
    have hexp : ulpExp x.magnitude ≤ 971 := by rw [he]; exact x.canonical.2.2.1
    rw [ofMagnitude, dif_pos hpos, dif_pos hlt, dif_pos hexp]
    exact congrArg Number.finite (ext_of rfl hs he)

/-! ## 3. The shortest decimal -/

/-- A decimal `sig * 10 ^ pow`. -/
structure Decimal where
  sig : Nat
  pow : Int
deriving DecidableEq

/-- The rational a decimal denotes. -/
def Decimal.value (d : Decimal) : ℚ := d.sig * 10 ^ d.pow

/-- Drop trailing zeros of the significand; the fuel bounds how many. -/
def Decimal.strip : Nat → Decimal → Decimal
  | 0, d => d
  | fuel + 1, d =>
    if d.sig ≠ 0 ∧ d.sig % 10 = 0 then strip fuel ⟨d.sig / 10, d.pow + 1⟩ else d

theorem Decimal.value_strip : ∀ (fuel : Nat) (d : Decimal), (strip fuel d).value = d.value
  | 0, _ => rfl
  | fuel + 1, d => by
    unfold strip
    split
    · rename_i h
      rw [value_strip fuel]
      have hdiv : ((d.sig / 10 : ℕ) : ℚ) * 10 = d.sig := by
        exact_mod_cast Nat.div_mul_cancel (Nat.dvd_of_mod_eq_zero h.2)
      simp only [value]
      rw [zpow_add_one₀ (by norm_num), ← hdiv]
      ring
    · rfl

/-- The exact decimal expansion of a double's magnitude. -/
def exactDecimal (x : Binary64) : Decimal :=
  if 0 ≤ x.exp then ⟨x.man * 2 ^ x.exp.toNat, 0⟩
  else ⟨x.man * 5 ^ (-x.exp).toNat, x.exp⟩

theorem value_exactDecimal (x : Binary64) : (exactDecimal x).value = x.magnitude := by
  unfold exactDecimal magnitude
  split
  · rename_i h
    obtain ⟨n, hn⟩ := Int.eq_ofNat_of_zero_le h
    simp [Decimal.value, hn]
  · rename_i h
    obtain ⟨n, hn⟩ := Int.eq_ofNat_of_zero_le (a := -x.exp) (by omega)
    have hx : x.exp = -(n : ℤ) := by omega
    have h10 : (10 : ℚ) ^ (-(n : ℤ)) = (5 ^ n)⁻¹ * 2 ^ (-(n : ℤ)) := by
      rw [zpow_neg, zpow_neg, zpow_natCast, zpow_natCast, ← mul_inv, ← mul_pow]
      norm_num
    simp only [Decimal.value, hx, neg_neg, Int.toNat_natCast, Nat.cast_mul, Nat.cast_pow,
      Nat.cast_ofNat, h10]
    field_simp

/-- The decimals with `k` digits next to `x`, nearest first; `n` is the decimal exponent of
`Number::toString`. -/
def candidates (x : Binary64) (k : Nat) : List Decimal :=
  let q := x.magnitude
  let pow := Int.log 10 q + 1 - k
  let lo := ⌊q / 10 ^ pow⌋₊
  let rest := q / 10 ^ pow - lo
  let down : Decimal := ⟨lo, pow⟩
  let up : Decimal := ⟨lo + 1, pow⟩
  if rest < 1 / 2 ∨ (rest = 1 / 2 ∧ lo % 2 = 0) then [down, up] else [up, down]

/-- Does this decimal read back as `x`? -/
def readsBack (x : Binary64) (d : Decimal) : Bool :=
  decide (ofMagnitude x.neg d.value = .finite x)

/-- The shortest decimal that reads back as `x`: the first candidate over the digit counts. -/
def shortest (x : Binary64) : Decimal :=
  let found := ((List.range 17).flatMap fun k => candidates x (k + 1)).find? (readsBack x)
  (found.getD (exactDecimal x)).strip 400

/-- Printing and reading is the identity on doubles. -/
theorem ofMagnitude_shortest (x : Binary64) :
    ofMagnitude x.neg (shortest x).value = .finite x := by
  unfold shortest
  rw [Decimal.value_strip]
  cases hf : ((List.range 17).flatMap fun k => candidates x (k + 1)).find? (readsBack x) with
  | none => rw [Option.getD_none, value_exactDecimal, ofMagnitude_magnitude]
  | some d =>
    have := List.find?_some hf
    simpa [readsBack] using this

theorem shortest_sig_ne_zero {x : Binary64} (hm : x.man ≠ 0) : (shortest x).sig ≠ 0 := by
  intro h0
  have hr := ofMagnitude_shortest x
  have hv : (shortest x).value = 0 := by simp [Decimal.value, h0]
  rw [hv, ofMagnitude, dif_neg (lt_irrefl 0)] at hr
  have hx : x = zero x.neg := (Number.finite.inj hr).symm
  exact hm (by rw [hx]; rfl)

end Binary64

end Ecma
