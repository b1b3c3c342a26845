/-
# Lengths as numbers

`v.length` is a double.  A length below `2 ^ 53` is that double exactly, and a longer one rounds to
`2 ^ 53` at least, so a comparison with a small bound says the same of the double as of the length
(`exceeds_ofNat`).
-/
import Archon.Ecma.Value

namespace Ecma

open Binary64

namespace Number

/-- The double with `n` as its value, for `0 < n < 2 ^ 53`: `n` shifted up to 53 bits. -/
def exact (n : Nat) (h0 : 0 < n) (h : n < 2 ^ 53) : Binary64 where
  neg := false
  man := n * 2 ^ (52 - n.log2)
  exp := n.log2 - 52
  canonical := by
    have hlog : n.log2 ≤ 52 := Nat.lt_succ_iff.mp ((Nat.log2_lt (by omega)).mpr h)
    have hself : 2 ^ n.log2 ≤ n := Nat.log2_self_le (by omega)
    have hlt : n < 2 ^ (n.log2 + 1) := Nat.lt_log2_self
    have hpow : 2 ^ n.log2 * 2 ^ (52 - n.log2) = 2 ^ 52 := by
      rw [← pow_add, Nat.add_sub_cancel' hlog]
    refine ⟨?_, by omega, by omega, fun hsmall => ?_⟩
    · calc n * 2 ^ (52 - n.log2) < 2 ^ (n.log2 + 1) * 2 ^ (52 - n.log2) :=
            Nat.mul_lt_mul_of_pos_right hlt (by positivity)
        _ = 2 ^ 53 := by rw [pow_succ, mul_right_comm, hpow]; norm_num
    · have : 2 ^ 52 ≤ n * 2 ^ (52 - n.log2) := by
        rw [← hpow]
        exact Nat.mul_le_mul_right _ hself
      omega

theorem exact_magnitude {n : Nat} (h0 : 0 < n) (h : n < 2 ^ 53) : (exact n h0 h).magnitude = n := by
  have hlog : n.log2 ≤ 52 := Nat.lt_succ_iff.mp ((Nat.log2_lt (by omega)).mpr h)
  have he : ((n.log2 : ℤ) - 52) = -((52 - n.log2 : ℕ) : ℤ) := by omega
  simp only [exact, magnitude, he]
  rw [zpow_neg, zpow_natCast]
  push_cast
  rw [mul_assoc, mul_inv_cancel₀ (by positivity), mul_one]

/-- A length below `2 ^ 53` is a double. -/
theorem ofNat_eq_exact {n : Nat} (h : n < 2 ^ 53) :
    ∃ x, ofNat n = .finite x ∧ x.neg = false ∧ x.magnitude = n := by
  rcases Nat.eq_zero_or_pos n with rfl | h0
  · refine ⟨Binary64.zero false, ?_, rfl, by simp [Binary64.zero, magnitude]⟩
    rw [ofNat, ofMagnitude, dif_neg (by norm_num)]
  · refine ⟨exact n h0 h, ?_, rfl, exact_magnitude h0 h⟩
    have := ofMagnitude_magnitude (exact n h0 h)
    rwa [exact_magnitude h0 h] at this

/-- A longer one is a double that is no shorter than `2 ^ 53`, or infinite. -/
theorem ofNat_of_ge {n : Nat} (h : 2 ^ 53 ≤ n) :
    ofNat n = .infinity false ∨ ∃ x, ofNat n = .finite x ∧ x.neg = false ∧ 2 ^ 53 ≤ x.magnitude := by
  have hq : (0 : ℚ) < n := by exact_mod_cast lt_of_lt_of_le (by norm_num) h
  have hlog : (53 : ℤ) ≤ Int.log 2 (n : ℚ) := by
    rw [← Int.zpow_le_iff_le_log (by norm_num) hq]
    exact_mod_cast h
  have hulp : (1 : ℤ) ≤ ulpExp n := by unfold ulpExp; omega
  have hsig : 2 ^ 52 ≤ significand n := le_significand hq (by omega)
  have hscale : ∀ {m : Nat} {e : ℤ}, 2 ^ 52 ≤ m → 1 ≤ e → (2 : ℚ) ^ 53 ≤ (m : ℚ) * (2 : ℚ) ^ e := by
    intro m e hm he
    have h1 : (2 : ℚ) ^ 52 ≤ (m : ℚ) := by exact_mod_cast hm
    have h2 : (2 : ℚ) ^ (1 : ℤ) ≤ (2 : ℚ) ^ e := zpow_le_zpow_right₀ (by norm_num) he
    calc (2 : ℚ) ^ 53 = (2 : ℚ) ^ 52 * (2 : ℚ) ^ (1 : ℤ) := by norm_num
      _ ≤ (m : ℚ) * (2 : ℚ) ^ e := mul_le_mul h1 h2 (by positivity) (by positivity)
  unfold ofNat ofMagnitude
  rw [dif_pos hq]
  split_ifs
  · exact Or.inr ⟨_, rfl, rfl, hscale hsig hulp⟩
  · exact Or.inl rfl
  · exact Or.inr ⟨_, rfl, rfl, hscale le_rfl (hulp.trans (Int.le_add_one le_rfl))⟩
  · exact Or.inl rfl

/-- **`length > k`**, for a bound below `2 ^ 53`. -/
theorem exceeds_ofNat (n : Nat) {k : Nat} (hk : k < 2 ^ 53) : (ofNat n).exceeds k = decide (k < n) := by
  rcases Nat.lt_or_ge n (2 ^ 53) with h | h
  · obtain ⟨x, hx, hneg, hmag⟩ := ofNat_eq_exact h
    simp [hx, exceeds, hneg, hmag]
  · have hkn : k < n := lt_of_lt_of_le hk h
    rcases ofNat_of_ge h with hx | ⟨x, hx, hneg, hmag⟩
    · simp [hx, exceeds, hkn]
    · have : (k : ℚ) < x.magnitude := lt_of_lt_of_le (by exact_mod_cast hk) hmag
      simp [hx, exceeds, hneg, hkn, this]

end Number

end Ecma
