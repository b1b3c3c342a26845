/-
# Base 64, read back

`base64` writes bytes in groups of three.  `decode64` reads them again, as `base64.b64decode` does: the
bits that the padding leaves over are dropped.  What was written is read back (`decode64_base64`).
-/
import Archon.Cloud.Checkpoint

namespace Cloud

open Ecma

/-- The number of a digit of base 64. -/
def digit64 (u : UInt16) : Option Nat :=
  if 0x41 ≤ u ∧ u ≤ 0x5A then some (u.toNat - 0x41)
  else if 0x61 ≤ u ∧ u ≤ 0x7A then some (u.toNat - 0x61 + 26)
  else if 0x30 ≤ u ∧ u ≤ 0x39 then some (u.toNat - 0x30 + 52)
  else if u = 0x2B then some 62
  else if u = 0x2F then some 63
  else none

/-- `base64.b64decode(t, validate=True)`. -/
def decode64 : Text → Option (List UInt8)
  | [] => some []
  | a :: b :: c :: d :: rest => do
    let w ← digit64 a
    let x ← digit64 b
    if rest = [] ∧ d = 0x3D then
      if c = 0x3D then return [UInt8.ofNat ((w * 64 + x) / 16)]
      else
        let y ← digit64 c
        let n := (w * 64 + x) * 64 + y
        return [UInt8.ofNat (n / 1024), UInt8.ofNat (n / 4 % 256)]
    else
      let y ← digit64 c
      let z ← digit64 d
      let bytes ← decode64 rest
      let n := ((w * 64 + x) * 64 + y) * 64 + z
      return UInt8.ofNat (n / 65536) :: UInt8.ofNat (n / 256 % 256) :: UInt8.ofNat (n % 256) :: bytes
  | _ => none

theorem digit64_base64Digit {n : Nat} (h : n < 64) : digit64 (base64Digit n) = some n := by
  have hdigits : ∀ n : Fin 64, digit64 (base64Digit n) = some n.val := by decide
  exact hdigits ⟨n, h⟩

theorem base64Digit_ne_pad {n : Nat} (h : n < 64) : base64Digit n ≠ 0x3D := by
  have hdigits : ∀ n : Fin 64, base64Digit n ≠ 0x3D := by decide
  exact hdigits ⟨n, h⟩

theorem ofNat_eq {a : UInt8} {n : Nat} (h : n = a.toNat) : UInt8.ofNat n = a := by
  rw [h]
  exact UInt8.ofNat_toNat

/-- **What was written is read back.** -/
theorem decode64_base64 (bytes : List UInt8) : decode64 (base64 bytes) = some bytes := by
  induction bytes using base64.induct with
  | case1 => rfl
  | case2 a =>
    have ha := a.toNat_lt
    obtain ⟨n, hn⟩ : ∃ n, n = a.toNat * 65536 := ⟨_, rfl⟩
    have h1 : n / 262144 < 64 := by omega
    have h2 : n / 4096 % 64 < 64 := Nat.mod_lt _ (by decide)
    simp only [base64, ← hn, decode64, digit64_base64Digit h1, digit64_base64Digit h2,
      Option.bind_eq_bind, Option.bind_some, and_self, if_true, Option.pure_def]
    rw [ofNat_eq (a := a) (by omega)]
  | case3 a b =>
    have ha := a.toNat_lt
    have hb := b.toNat_lt
    obtain ⟨n, hn⟩ : ∃ n, n = a.toNat * 65536 + b.toNat * 256 := ⟨_, rfl⟩
    have h1 : n / 262144 < 64 := by omega
    have h2 : n / 4096 % 64 < 64 := Nat.mod_lt _ (by decide)
    have h3 : n / 64 % 64 < 64 := Nat.mod_lt _ (by decide)
    simp only [base64, ← hn, decode64, digit64_base64Digit h1, digit64_base64Digit h2,
      Option.bind_eq_bind, Option.bind_some, and_self, if_true, Option.pure_def,
      if_neg (base64Digit_ne_pad h3), digit64_base64Digit h3]
    rw [ofNat_eq (a := a) (by omega), ofNat_eq (a := b) (by omega)]
  | case4 a b c rest ih =>
    have ha := a.toNat_lt
    have hb := b.toNat_lt
    have hc := c.toNat_lt
    obtain ⟨n, hn⟩ : ∃ n, n = a.toNat * 65536 + b.toNat * 256 + c.toNat := ⟨_, rfl⟩
    have h1 : n / 262144 < 64 := by omega
    have h2 : n / 4096 % 64 < 64 := Nat.mod_lt _ (by decide)
    have h3 : n / 64 % 64 < 64 := Nat.mod_lt _ (by decide)
    have h4 : n % 64 < 64 := Nat.mod_lt _ (by decide)
    simp only [base64, ← hn, decode64, digit64_base64Digit h1, digit64_base64Digit h2,
      Option.bind_eq_bind, Option.bind_some, base64Digit_ne_pad h4, and_false, if_false,
      Option.pure_def, digit64_base64Digit h3, digit64_base64Digit h4, ih]
    rw [ofNat_eq (a := a) (by omega), ofNat_eq (a := b) (by omega), ofNat_eq (a := c) (by omega)]

end Cloud
