/-
# Strings as sequences of UTF-16 code units

An ECMAScript string is any sequence of 16-bit code units, lone surrogates included, so a Lean
`String` is too small for it.  `Text` is that sequence.  A Lean literal enters through `js`,
which encodes it; `js_inj` says the encoding loses nothing, so two literals are compared as Lean
strings and never unit by unit.

The rest is what the string methods of the model need: `trim`, substring search, the decimal
numerals of `String(n)`, the keys that are array indices (they come first in property order),
and the length of a text in UTF-8, which is what `Buffer.byteLength` counts.
-/
import Mathlib.Data.List.Sort
import Mathlib.Data.Nat.Digits.Defs
import Mathlib.Data.List.Infix
import Mathlib.Tactic.IntervalCases

namespace Ecma

/-- A sequence of UTF-16 code units. -/
abbrev Text := List UInt16

/-! ## 1. Literals -/

/-- The UTF-16 encoding of one character: one unit, or a surrogate pair. -/
def utf16 (c : Char) : Text :=
  if c.toNat < 0x10000 then [UInt16.ofNat c.toNat]
  else [UInt16.ofNat (0xD800 + (c.toNat - 0x10000) / 0x400),
    UInt16.ofNat (0xDC00 + (c.toNat - 0x10000) % 0x400)]

/-- A string literal of the source. -/
def js (s : String) : Text := s.toList.flatMap utf16

/-- A literal as the list of its characters.  The kernel evaluates a long text from the list; to decode
the string itself takes it seconds. -/
theorem js_ofList (cs : List Char) : js (String.ofList cs) = cs.flatMap utf16 := by
  rw [js, String.toList_ofList]

theorem char_toNat_lt (c : Char) : c.toNat < 0x110000 := by
  rcases c.valid with h | h
  · exact lt_trans h (by decide)
  · exact h.2

theorem char_not_surrogate (c : Char) : c.toNat < 0xD800 ∨ 0xDFFF < c.toNat := by
  rcases c.valid with h | h
  · exact Or.inl h
  · exact Or.inr h.1

/-- The encodings of two characters, each followed by more text, agree only when the characters
and the rests do.  A unit that opens a pair is a surrogate, which no character is alone. -/
theorem utf16_append_inj {c d : Char} {s t : Text} (h : utf16 c ++ s = utf16 d ++ t) :
    c = d ∧ s = t := by
  have hc := char_toNat_lt c
  have hd := char_toNat_lt d
  have hc' := char_not_surrogate c
  have hd' := char_not_surrogate d
  have hinj : ∀ {m n : Nat}, m < 2 ^ 16 → n < 2 ^ 16 → UInt16.ofNat m = UInt16.ofNat n → m = n :=
    fun hm hn e => by
      have := congrArg UInt16.toNat e
      rwa [UInt16.toNat_ofNat_of_lt' hm, UInt16.toNat_ofNat_of_lt' hn] at this
  unfold utf16 at h
  split at h <;> split at h <;>
    simp only [List.cons_append, List.nil_append, List.cons.injEq] at h
  · exact ⟨Char.toNat_inj.mp (hinj (by omega) (by omega) h.1), h.2⟩
  · exact absurd (hinj (by omega) (by omega) h.1) (by omega)
  · exact absurd (hinj (by omega) (by omega) h.1) (by omega)
  · have h1 := hinj (by omega) (by omega) h.1
    have h2 := hinj (by omega) (by omega) h.2.1
    exact ⟨Char.toNat_inj.mp (by omega), h.2.2⟩

theorem utf16_ne_nil (c : Char) : utf16 c ≠ [] := by
  unfold utf16; split <;> simp

theorem flatMap_utf16_inj : ∀ {s t : List Char}, s.flatMap utf16 = t.flatMap utf16 → s = t
  | [], [], _ => rfl
  | [], d :: _, h => by
    have := (List.append_eq_nil_iff.mp (h.symm.trans List.flatMap_nil)).1
    exact absurd this (utf16_ne_nil d)
  | c :: _, [], h => by
    have := (List.append_eq_nil_iff.mp (h.trans List.flatMap_nil)).1
    exact absurd this (utf16_ne_nil c)
  | c :: s, d :: t, h => by
    obtain ⟨rfl, hst⟩ := utf16_append_inj (by simpa only [List.flatMap_cons] using h)
    rw [flatMap_utf16_inj hst]

/-- Literals are equal as texts exactly when they are equal as Lean strings. -/
@[simp] theorem js_inj {s t : String} : js s = js t ↔ s = t :=
  ⟨fun h => String.toList_inj.mp (flatMap_utf16_inj h), fun h => by rw [h]⟩

/-! ## 2. Methods -/

/-- `WhiteSpace` and `LineTerminator`, the units `trim` removes. -/
def isSpace (u : UInt16) : Bool :=
  (0x09 ≤ u && u ≤ 0x0D) || u == 0x20 || u == 0xA0 || u == 0x1680 || (0x2000 ≤ u && u ≤ 0x200A) ||
    u == 0x2028 || u == 0x2029 || u == 0x202F || u == 0x205F || u == 0x3000 || u == 0xFEFF

/-- `String.prototype.trim`. -/
def trim (t : Text) : Text := ((t.dropWhile isSpace).reverse.dropWhile isSpace).reverse

/-- `t.trim().length > 0`. -/
def nonBlank (t : Text) : Bool := !(trim t).isEmpty

theorem nonBlank_ne_nil {t : Text} (h : nonBlank t = true) : t ≠ [] := by
  rintro rfl; simp [nonBlank, trim] at h

/-- `String.prototype.includes`: does `pat` occur in `t`? -/
def occursIn (pat : Text) : Text → Bool
  | [] => pat.isEmpty
  | u :: t => pat.isPrefixOf (u :: t) || occursIn pat t

/-- `String.prototype.slice` between two offsets that are not negative. -/
def slice (t : Text) (start stop : Nat) : Text := (t.take stop).drop start

/-! ## 3. Numerals and property keys -/

/-- The unit of a decimal digit. -/
def digitUnit (d : Nat) : UInt16 := UInt16.ofNat (0x30 + d)

/-- Is this unit one of `0` to `9`? -/
def isDigit (u : UInt16) : Bool := 0x30 ≤ u && u ≤ 0x39

/-- The value of a digit unit. -/
def digitValue (u : UInt16) : Nat := u.toNat - 0x30

/-- The decimal digits of a number, most significant first; none for zero.  The fuel bounds
their number. -/
def digitsAux : Nat → Nat → List Nat → List Nat
  | 0, _, acc => acc
  | _ + 1, 0, acc => acc
  | fuel + 1, n + 1, acc => digitsAux fuel ((n + 1) / 10) ((n + 1) % 10 :: acc)

/-- The numeral of a natural number, without leading zeros. -/
def decimalDigits (n : Nat) : List Nat := if n = 0 then [0] else digitsAux n n []

/-- `String(n)` for a natural number in the range where no exponent is printed. -/
def decimalText (n : Nat) : Text := (decimalDigits n).map digitUnit

/-- The number a list of digits denotes. -/
def digitsValue (ds : List Nat) : Nat := ds.foldl (fun n d => 10 * n + d) 0

theorem foldl_digits (n : Nat) : ∀ ds : List Nat,
    ds.foldl (fun n d => 10 * n + d) n = n * 10 ^ ds.length + digitsValue ds
  | [] => by simp [digitsValue]
  | d :: ds => by
    simp only [digitsValue, List.foldl_cons, List.length_cons]
    rw [foldl_digits (10 * n + d) ds, foldl_digits (10 * 0 + d) ds]
    ring

theorem digitsValue_cons (d : Nat) (ds : List Nat) :
    digitsValue (d :: ds) = d * 10 ^ ds.length + digitsValue ds := by
  have := foldl_digits d ds
  simpa [digitsValue] using this

theorem digitsValue_append_list (ds es : List Nat) :
    digitsValue (ds ++ es) = digitsValue ds * 10 ^ es.length + digitsValue es := by
  rw [digitsValue, List.foldl_append, foldl_digits]
  rfl

theorem digitsValue_replicate_zero : ∀ n : Nat, digitsValue (List.replicate n 0) = 0
  | 0 => rfl
  | n + 1 => by
    rw [List.replicate_succ, digitsValue_cons, digitsValue_replicate_zero n]; simp

theorem digitsAux_spec : ∀ (fuel n : Nat) (acc : List Nat), n ≤ fuel →
    digitsValue (digitsAux fuel n acc) = n * 10 ^ acc.length + digitsValue acc
  | 0, n, acc, h => by
    have : n = 0 := by omega
    subst this; simp [digitsAux]
  | _ + 1, 0, acc, _ => by simp [digitsAux]
  | fuel + 1, n + 1, acc, h => by
    rw [digitsAux, digitsAux_spec fuel _ _ (by omega), digitsValue_cons, List.length_cons]
    have := Nat.div_add_mod (n + 1) 10
    calc (n + 1) / 10 * 10 ^ (acc.length + 1)
          + ((n + 1) % 10 * 10 ^ acc.length + digitsValue acc)
        = (10 * ((n + 1) / 10) + (n + 1) % 10) * 10 ^ acc.length + digitsValue acc := by ring
      _ = (n + 1) * 10 ^ acc.length + digitsValue acc := by rw [this]

@[simp] theorem digitsValue_decimalDigits (n : Nat) : digitsValue (decimalDigits n) = n := by
  unfold decimalDigits
  split
  · rename_i h; subst h; rfl
  · rw [digitsAux_spec n n [] le_rfl]; simp [digitsValue]

theorem digitsAux_lt : ∀ (fuel n : Nat) (acc : List Nat), (∀ d ∈ acc, d < 10) →
    ∀ d ∈ digitsAux fuel n acc, d < 10
  | 0, _, _, h => h
  | _ + 1, 0, _, h => h
  | fuel + 1, n + 1, acc, h => by
    refine digitsAux_lt fuel _ _ ?_
    intro d hd
    rcases List.mem_cons.mp hd with rfl | hd
    · exact Nat.mod_lt _ (by norm_num)
    · exact h d hd

theorem decimalDigits_lt {n d : Nat} (h : d ∈ decimalDigits n) : d < 10 := by
  unfold decimalDigits at h
  split at h
  · simp at h; omega
  · exact digitsAux_lt n n [] (by simp) d h

theorem digitsAux_head (fuel n : Nat) (acc : List Nat) (hn : n ≤ fuel) (h0 : 0 < n) :
    ∃ d ds, digitsAux fuel n acc = d :: ds ∧ d ≠ 0 := by
  induction fuel generalizing n acc with
  | zero => omega
  | succ fuel ih =>
    obtain ⟨m, rfl⟩ : ∃ m, n = m + 1 := ⟨n - 1, by omega⟩
    rw [digitsAux]
    by_cases hq : (m + 1) / 10 = 0
    · rw [hq]
      refine ⟨(m + 1) % 10, acc, ?_, by omega⟩
      cases fuel <;> rfl
    · exact ih _ _ (by omega) (by omega)

/-- A numeral of a positive number does not begin with a zero. -/
theorem decimalDigits_head {n : Nat} (h : n ≠ 0) : ∃ d ds, decimalDigits n = d :: ds ∧ d ≠ 0 := by
  rw [decimalDigits, if_neg h]
  exact digitsAux_head n n [] le_rfl (by omega)

theorem decimalDigits_ne_nil (n : Nat) : decimalDigits n ≠ [] := by
  by_cases h : n = 0
  · subst h; simp [decimalDigits]
  · obtain ⟨d, ds, he, -⟩ := decimalDigits_head h
    rw [he]; simp

theorem isDigit_digitUnit {d : Nat} (h : d < 10) : isDigit (digitUnit d) = true := by
  interval_cases d <;> decide

theorem digitValue_digitUnit {d : Nat} (h : d < 10) : digitValue (digitUnit d) = d := by
  interval_cases d <;> decide

/-- The array index a property key spells, if it is one: a canonical numeral below `2 ^ 32 - 1`. -/
def arrayIndex (key : Text) : Option Nat :=
  if !key.isEmpty && key.all isDigit then
    let n := digitsValue (key.map digitValue)
    if n < 2 ^ 32 - 1 ∧ decimalText n = key then some n else none
  else none

/-! ## 4. Length in UTF-8 -/

/-- A leading surrogate. -/
def isHigh (u : UInt16) : Bool := 0xD800 ≤ u && u ≤ 0xDBFF

/-- A trailing surrogate. -/
def isLow (u : UInt16) : Bool := 0xDC00 ≤ u && u ≤ 0xDFFF

/-- The UTF-8 bytes of one unit that is not half of a pair; a lone surrogate is replaced by
U+FFFD, which takes three. -/
def unitBytes (u : UInt16) : Nat := if u < 0x80 then 1 else if u < 0x800 then 2 else 3

/-- `Buffer.byteLength(t, "utf8")`. -/
def utf8Length : Text → Nat
  | [] => 0
  | [u] => unitBytes u
  | u :: v :: t =>
    if isHigh u && isLow v then 4 + utf8Length t else unitBytes u + utf8Length (v :: t)

end Ecma
