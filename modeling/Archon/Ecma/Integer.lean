/-
# The numeral of an integer

`String(x)` of a double that denotes an integer below `2 ^ 53` is the decimal numeral of this integer
(`text_of_magnitude`): no exponent, no point, and all the digits.  What is to be shown is that the
shortest decimal that reads back as the double denotes the integer itself.  A candidate with fewer
digits than the integer has is an integer too, so it is a double of its own, and with as many digits
the integer is the first candidate.
-/
import Archon.Ecma.Schema

namespace Ecma

namespace Binary64

/-! ## 1. Doubles that denote integers -/

/-- What is rounded from `2 ^ 53` on stays there. -/
theorem le_magnitude_of_ofMagnitude {neg : Bool} {q : ℚ} {x : Binary64}
    (h : ofMagnitude neg q = .finite x) (hq : 2 ^ 53 ≤ q) : 2 ^ 53 ≤ x.magnitude := by
  have hpos : 0 < q := lt_of_lt_of_le (by norm_num) hq
  have hlog : 53 ≤ Int.log 2 q := by
    rw [← Int.zpow_le_iff_le_log (by norm_num) hpos]
    exact_mod_cast hq
  have hexp : 1 ≤ ulpExp q := by
    unfold ulpExp
    omega
  have hsig : 2 ^ 52 ≤ significand q := le_significand hpos (by omega)
  have hscale : ∀ {m : Nat} {e : Int}, 2 ^ 52 ≤ m → 1 ≤ e → (2 : ℚ) ^ 53 ≤ (m : ℚ) * (2 : ℚ) ^ e := by
    intro m e hm he
    calc (2 : ℚ) ^ 53 = (2 : ℚ) ^ 52 * (2 : ℚ) ^ (1 : ℤ) := by norm_num
      _ ≤ (m : ℚ) * (2 : ℚ) ^ e := by
        refine mul_le_mul (by exact_mod_cast hm) ?_ (by positivity) (by positivity)
        exact zpow_le_zpow_right₀ (by norm_num) he
  unfold ofMagnitude at h
  split_ifs at h
  · obtain rfl := Number.finite.inj h
    exact hscale hsig hexp
  · obtain rfl := Number.finite.inj h
    exact hscale (m := 2 ^ 52) (e := ulpExp q + 1) (le_refl _) (by omega)

theorem magnitude_of_neg {neg neg' : Bool} {q : ℚ} {x y : Binary64} (h : ofMagnitude neg q = .finite x)
    (h' : ofMagnitude neg' q = .finite y) : x.magnitude = y.magnitude := by
  unfold ofMagnitude at h h'
  split_ifs at h h'
  all_goals
    obtain rfl := Number.finite.inj h
    obtain rfl := Number.finite.inj h'
    rfl

/-- **An integer that rounds to a small double is denoted by it.** -/
theorem magnitude_of_natCast {neg : Bool} {m : Nat} {x : Binary64} (h : ofMagnitude neg m = .finite x)
    (hlt : x.magnitude < 2 ^ 53) : x.magnitude = m := by
  have hm : m < 2 ^ 53 := by
    by_contra hge
    have hq : (2 : ℚ) ^ 53 ≤ m := by exact_mod_cast Nat.le_of_not_lt hge
    exact absurd hlt (not_lt.mpr (le_magnitude_of_ofMagnitude h hq))
  obtain ⟨y, hy, -, hmag⟩ := ofMagnitude_natCast hm
  rw [magnitude_of_neg h hy, hmag]

/-! ## 2. The shortest decimal of an integer -/

section Shortest

variable {x : Binary64} {n : Nat}

/-- Drop zeros, and what is left denotes the same and has its power. -/
theorem strip_pow_nonneg : ∀ (fuel : Nat) (d : Decimal), 0 ≤ d.pow → 0 ≤ (Decimal.strip fuel d).pow
  | 0, _, h => h
  | fuel + 1, d, h => by
    unfold Decimal.strip
    split
    · exact strip_pow_nonneg fuel _ (by show 0 ≤ d.pow + 1; omega)
    · exact h

/-- A candidate without a fraction denotes an integer. -/
theorem candidate_natCast {k : Nat} {d : Decimal} (hd : d ∈ candidates x k)
    (hpow : 0 ≤ Int.log 10 x.magnitude + 1 - k) : 0 ≤ d.pow ∧ ∃ m : Nat, d.value = m := by
  have hshape : ∃ s, d = ⟨s, Int.log 10 x.magnitude + 1 - k⟩ := by
    unfold candidates at hd
    dsimp only at hd
    split at hd
    all_goals
      rcases List.mem_cons.mp hd with rfl | hd
      · exact ⟨_, rfl⟩
      · exact ⟨_, List.mem_singleton.mp hd⟩
  obtain ⟨s, rfl⟩ := hshape
  obtain ⟨p, hp⟩ := Int.eq_ofNat_of_zero_le hpow
  refine ⟨hpow, s * 10 ^ p, ?_⟩
  rw [Decimal.value, hp]
  push_cast
  rw [zpow_natCast]

/-- With all its digits the integer itself is the first candidate. -/
theorem candidates_integer (hx : x.magnitude = n) :
    (candidates x (Nat.log 10 n + 1)).head? = some ⟨n, 0⟩ := by
  have hlog : Int.log 10 (n : ℚ) = Nat.log 10 n := Int.log_natCast 10 n
  have hpow : Int.log 10 (n : ℚ) + 1 - ((Nat.log 10 n + 1 : ℕ) : ℤ) = 0 := by
    rw [hlog]
    push_cast
    ring
  unfold candidates
  dsimp only
  rw [hx, hpow]
  simp

/-- **The shortest decimal of an integer denotes it.** -/
theorem shortest_integer (hx : x.magnitude = n) (hpos : 0 < n) (hlt : n < 2 ^ 53) :
    0 ≤ (shortest x).pow ∧ (shortest x).value = n := by
  have hsmall : x.magnitude < 2 ^ 53 := by
    rw [hx]
    exact_mod_cast hlt
  have hlog : Nat.log 10 n < 16 := Nat.log_lt_of_lt_pow (by omega) (by omega)
  have hlogq : Int.log 10 x.magnitude = Nat.log 10 n := by
    rw [hx]
    exact Int.log_natCast 10 n
  have hfound : ∃ d, ((List.range 17).flatMap fun k => candidates x (k + 1)).find? (readsBack x) = some d
      ∧ 0 ≤ d.pow ∧ d.value = n := by
    obtain ⟨j, hj⟩ : ∃ j, 17 = Nat.log 10 n + (j + 1) := ⟨16 - Nat.log 10 n, by omega⟩
    rw [hj, List.range_add, List.range_succ_eq_map, List.map_cons, List.flatMap_append, List.flatMap_cons,
      List.find?_append, Nat.add_zero]
    cases hshort : ((List.range (Nat.log 10 n)).flatMap fun k => candidates x (k + 1)).find?
        (readsBack x) with
    | some d =>
      refine ⟨d, by rw [Option.some_or], ?_⟩
      obtain ⟨k, hk, hd⟩ := List.mem_flatMap.mp (List.mem_of_find?_eq_some hshort)
      have hk := List.mem_range.mp hk
      obtain ⟨hnonneg, m, hm⟩ := candidate_natCast hd (by rw [hlogq]; push_cast; omega)
      have hreads : ofMagnitude x.neg d.value = .finite x := by
        simpa [readsBack] using List.find?_some hshort
      rw [hm] at hreads ⊢
      exact ⟨hnonneg, by rw [← magnitude_of_natCast hreads hsmall, hx]⟩
    | none =>
      obtain ⟨rest, hcandidates⟩ : ∃ rest, candidates x (Nat.log 10 n + 1) = ⟨n, 0⟩ :: rest := by
        cases h : candidates x (Nat.log 10 n + 1) with
        | nil =>
          have hhead := candidates_integer hx
          rw [h] at hhead
          cases hhead
        | cons d rest =>
          have hhead := candidates_integer hx
          rw [h] at hhead
          obtain rfl := Option.some.inj hhead
          exact ⟨rest, rfl⟩
      have hvalue : Decimal.value ⟨n, 0⟩ = n := by simp [Decimal.value]
      have hreads : readsBack x ⟨n, 0⟩ = true := by
        rw [readsBack, hvalue, ← hx, ofMagnitude_magnitude, decide_eq_true rfl]
      refine ⟨⟨n, 0⟩, ?_, le_refl _, hvalue⟩
      rw [Option.none_or, hcandidates, List.cons_append, List.find?_cons_of_pos hreads]
  obtain ⟨d, hd, hnonneg, hvalue⟩ := hfound
  unfold shortest
  dsimp only
  rw [hd, Option.getD_some, Decimal.value_strip]
  exact ⟨strip_pow_nonneg 400 d hnonneg, hvalue⟩

end Shortest

end Binary64

/-! ## 3. Its numeral -/

/-- The fuel does not matter, if it suffices. -/
theorem digitsAux_fuel : ∀ (fuel fuel' n : Nat) (acc : List Nat), n ≤ fuel → n ≤ fuel' →
    digitsAux fuel n acc = digitsAux fuel' n acc
  | 0, 0, _, _, _, _ => rfl
  | fuel, fuel' + 1, 0, acc, _, _ => by cases fuel <;> rfl
  | fuel + 1, fuel', 0, acc, _, _ => by cases fuel' <;> rfl
  | fuel + 1, fuel' + 1, n + 1, acc, h, h' => by
    rw [digitsAux, digitsAux]
    exact digitsAux_fuel fuel fuel' _ _ (by omega) (by omega)

theorem digitsAux_append : ∀ (fuel n : Nat) (acc : List Nat),
    digitsAux fuel n acc = digitsAux fuel n [] ++ acc
  | 0, _, _ => rfl
  | _ + 1, 0, _ => rfl
  | fuel + 1, n + 1, acc => by
    rw [digitsAux, digitsAux, digitsAux_append fuel _ (_ :: acc), digitsAux_append fuel _ [_],
      List.append_assoc]
    rfl

/-- Ten times a number is written with one more zero. -/
theorem decimalDigits_mul_ten {n : Nat} (h : 0 < n) : decimalDigits (n * 10) = decimalDigits n ++ [0] := by
  obtain ⟨m, hm⟩ : ∃ m, n * 10 = m + 1 := ⟨n * 10 - 1, by omega⟩
  rw [decimalDigits, decimalDigits, if_neg (by omega), if_neg (by omega), hm, digitsAux, ← hm,
    Nat.mul_div_cancel n (by decide), Nat.mul_mod_left,
    digitsAux_fuel m n n _ (by omega) (le_refl n), digitsAux_append]

theorem decimalDigits_mul_pow {n : Nat} (h : 0 < n) : ∀ p : Nat,
    decimalDigits (n * 10 ^ p) = decimalDigits n ++ List.replicate p 0
  | 0 => by simp
  | p + 1 => by
    rw [pow_succ, ← Nat.mul_assoc, decimalDigits_mul_ten (Nat.mul_pos h (pow_pos (by decide) p)),
      decimalDigits_mul_pow h p, List.append_assoc, List.replicate_succ']

theorem length_digitsAux : ∀ (k fuel n : Nat) (acc : List Nat), n < 10 ^ k →
    (digitsAux fuel n acc).length ≤ k + acc.length
  | _, 0, _, acc, _ => by
    rw [digitsAux]
    omega
  | _, fuel + 1, 0, acc, _ => by
    rw [digitsAux]
    omega
  | 0, _ + 1, n + 1, _, h => absurd h (by rw [pow_zero]; omega)
  | k + 1, fuel + 1, n + 1, acc, h => by
    rw [digitsAux]
    have hlt : (n + 1) / 10 < 10 ^ k := by
      rw [pow_succ] at h
      omega
    have hlength := length_digitsAux k fuel ((n + 1) / 10) ((n + 1) % 10 :: acc) hlt
    rw [List.length_cons] at hlength
    omega

/-- So many digits as the power has. -/
theorem length_decimalDigits {n k : Nat} (hpos : 0 < n) (h : n < 10 ^ k) :
    (decimalDigits n).length ≤ k := by
  rw [decimalDigits, if_neg (by omega)]
  simpa using length_digitsAux k n n [] h

/-- The sign of a number. -/
def signText (neg : Bool) : Text := if neg then js "-" else []

/-- **A double that denotes an integer is written as the integer.** -/
theorem text_of_magnitude {x : Binary64} {n : Nat} (hx : x.magnitude = n) (hpos : 0 < n)
    (hlt : n < 2 ^ 53) : (Number.finite x).text = signText x.neg ++ decimalText n := by
  have hman : x.man ≠ 0 := by
    intro h
    rw [Binary64.magnitude, h] at hx
    have hzero : (0 : ℚ) = n := by simpa using hx
    exact absurd (by exact_mod_cast hzero.symm) hpos.ne'
  obtain ⟨hnonneg, hvalue⟩ := Binary64.shortest_integer hx hpos hlt
  have hsig := Binary64.shortest_sig_ne_zero hman
  have htext : (Number.finite x).text = signText x.neg
      ++ Number.layout (decimalDigits (Binary64.shortest x).sig)
        ((Binary64.shortest x).pow + (decimalDigits (Binary64.shortest x).sig).length) := by
    rw [Number.text, if_neg hman]
    rfl
  rw [htext]
  refine congrArg (signText x.neg ++ ·) ?_
  generalize Binary64.shortest x = d at hnonneg hvalue hsig
  obtain ⟨m, pow⟩ := d
  obtain ⟨p, rfl⟩ := Int.eq_ofNat_of_zero_le hnonneg
  have hm : m * 10 ^ p = n := by
    rw [Binary64.Decimal.value, zpow_natCast] at hvalue
    exact_mod_cast hvalue
  have hdigits : decimalDigits n = decimalDigits m ++ List.replicate p 0 := by
    rw [← hm]
    exact decimalDigits_mul_pow (Nat.pos_of_ne_zero hsig) p
  have hlength : (decimalDigits m).length + p ≤ 16 := by
    have hall := length_decimalDigits (k := 16) hpos (by omega)
    rwa [hdigits, List.length_append, List.length_replicate] at hall
  dsimp only at hnonneg ⊢
  rw [Number.layout, if_pos ⟨by omega, by omega⟩, decimalText, hdigits, List.map_append, List.map_replicate]
  refine congrArg (fun k => _ ++ List.replicate k _) ?_
  omega

end Ecma
