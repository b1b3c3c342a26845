/-
# Values that print briefly

What is stored or sent as JSON is bounded in bytes.  A value is brief with a bound: JSON carries it
exactly, and prints it in so many bytes.  A text without control characters is, by its length, and an
object literal by the bounds of its members.
-/
import Archon.Control.Facts
import Archon.Ecma.Integer
import Archon.Ecma.Length
import Archon.Ecma.Printing

namespace Worker

open Ecma Ecma.Value Remediation

/-- A text without control characters, within the bounds. -/
structure Plain (t : Text) (lo hi : Nat) : Prop where
  least : lo ≤ t.length
  most : t.length ≤ hi
  calm : ∀ u ∈ t, 0x20 ≤ u ∧ u ≠ 0x7F

/-- A value that JSON carries exactly, in so many bytes. -/
structure Brief (v : Value) (n : Nat) : Prop where
  exact : Exact v
  written : Value.Written v
  bytes : utf8Length v.written ≤ n

section Briefs

variable {t : Text} {n lo hi : Nat}

theorem brief_str (h : Plain t lo hi) : Brief (.str t) (6 * hi + 2) where
  exact := trivial
  written := trivial
  bytes := by
    have hescape := Control.utf8Length_escape fun u hu => (h.calm u hu).1
    have hlength := Control.utf8Length_le t
    have happend := Control.utf8Length_append_le (escape t) [0x22]
    have hquote : utf8Length ([0x22] : Text) = 1 := rfl
    have hunit : unitBytes 0x22 = 1 := rfl
    have hmost := h.most
    have hwritten : (Value.str t).written = 0x22 :: (escape t ++ [0x22]) := rfl
    rw [hwritten, Control.utf8Length_cons (by decide), hunit]
    omega

/-- A literal of sixty-four units. -/
theorem brief_lit {s : String} (h : Control.isAscii (js s) = true ∧ (js s).length ≤ 64) :
    Brief (lit s) 386 := by
  have hplain : Plain (js s) 0 64 := by
    refine ⟨Nat.zero_le _, h.2, fun u hu => ?_⟩
    have hunit := List.all_eq_true.mp h.1 u hu
    rw [Bool.and_eq_true, decide_eq_true_eq, decide_eq_true_eq] at hunit
    refine ⟨hunit.1, ?_⟩
    rintro rfl
    exact absurd hunit.2 (by decide)
  exact brief_str hplain

theorem brief_members {fields : List (String × Value)} {ns : List Nat}
    (hnames : ∀ f ∈ fields, Control.isName f.1 = true)
    (h : List.Forall₂ (fun f n => Brief f.2 n) fields ns) :
    (((fields.map fun f => (js f.1, f.2)).map memberText).map fun t => utf8Length t + 1).sum
      ≤ (ns.map (· + 68)).sum := by
  induction h with
  | nil => exact le_refl 0
  | @cons f n fields ns hf _ ih =>
    obtain ⟨hname, hnames⟩ := List.forall_mem_cons.mp hnames
    obtain ⟨hascii, hlength⟩ := Bool.and_eq_true_iff.mp hname
    have hsum := ih hnames
    have hquote := Control.utf8Length_quote (Control.fits_ascii hascii (of_decide_eq_true hlength))
    have happend := Control.utf8Length_append_le (quote (js f.1)) (0x3A :: f.2.written)
    have hcolon := Control.utf8Length_cons_le 0x3A f.2.written
    have hunit : unitBytes 0x3A = 1 := rfl
    have hbytes := hf.bytes
    simp only [List.map_cons, List.sum_cons, memberText] at hsum ⊢
    omega

/-- Names that members of one object may have, in this order. -/
def areNames (names : List String) : Bool :=
  names.all Control.isName
    && decide ((names.map js).Pairwise fun a b => a ≠ b ∧ goesBefore b a = false)

/-- **An object whose members are brief is brief.** -/
theorem brief_object {fields : List (String × Value)} {ns : List Nat} (names : List String)
    (heq : fields.map Prod.fst = names) (hvalid : areNames names = true)
    (h : List.Forall₂ (fun f n => Brief f.2 n) fields ns) :
    Brief (object fields) ((ns.map (· + 68)).sum + 2) := by
  subst heq
  obtain ⟨hall, hkeys⟩ := Bool.and_eq_true_iff.mp hvalid
  have hkeys := of_decide_eq_true hkeys
  have hnames : ∀ f ∈ fields, Control.isName f.1 = true := fun f hf =>
    List.all_eq_true.mp hall f.1 (List.mem_map_of_mem hf)
  have hbrief : ∀ f ∈ fields, ∃ n, Brief f.2 n := by
    intro f hf
    obtain ⟨z, rfl, rfl, hz⟩ := exists_pairs h
    obtain ⟨p, hp, rfl⟩ := List.mem_map.mp hf
    exact ⟨p.2, hz p hp⟩
  have hwritten : ∀ g ∈ fields.map fun f => (js f.1, f.2), Value.Written g.2 := by
    intro g hg
    obtain ⟨f, hf, rfl⟩ := List.mem_map.mp hg
    obtain ⟨n, hn⟩ := hbrief f hf
    exact hn.written
  refine ⟨⟨?_, Remediation.exactFields_iff.mpr fun g hg => ?_⟩, everywhere_obj.mpr ⟨trivial, hwritten⟩, ?_⟩
  · rw [Ordered, ← List.pairwise_map (f := Prod.fst) (R := fun a b => a ≠ b ∧ goesBefore b a = false)]
    rw [List.map_map] at hkeys ⊢
    exact hkeys
  · obtain ⟨f, hf, rfl⟩ := List.mem_map.mp hg
    obtain ⟨n, hn⟩ := hbrief f hf
    exact hn.exact
  · have hsum := brief_members hnames h
    have hcomma := Control.utf8Length_commaSep ((fields.map fun f => (js f.1, f.2)).map memberText)
    have happend := Control.utf8Length_append_le
      (commaSep ((fields.map fun f => (js f.1, f.2)).map memberText)) [0x7D]
    have hend : utf8Length ([0x7D] : Text) = 1 := rfl
    have hunit : unitBytes 0x7B = 1 := rfl
    rw [object, written_obj hwritten, Control.utf8Length_cons (by decide), hunit]
    omega

/-- A text that fits is brief. -/
theorem brief_fits (h : Control.Fits t n) : Brief (.str t) (2 * n + 2) where
  exact := trivial
  written := trivial
  bytes := Control.utf8Length_quote h

theorem isDigit_decimalText (m : Nat) : (decimalText m).all isDigit = true := by
  rw [List.all_eq_true, decimalText]
  intro u hu
  obtain ⟨d, hd, rfl⟩ := List.mem_map.mp hu
  exact isDigit_digitUnit (decimalDigits_lt hd)

/-- A safe integer is brief. -/
theorem brief_safe {m : Nat} (h : m < 2 ^ 53) : Brief (.num (.ofNat m)) 16 := by
  obtain ⟨x, hx, hneg, hmagnitude⟩ := Number.ofNat_eq_exact h
  have hnorm : (Number.finite x).normZero = .finite x := by
    by_cases hman : x.man = 0
    · -- The double of zero has no sign.
      have hzero : m = 0 := by
        rw [Binary64.magnitude, hman] at hmagnitude
        have hcast : (m : ℚ) = 0 := by simpa using hmagnitude.symm
        exact_mod_cast hcast
      subst hzero
      rw [← hx]
      decide
    · simp [Number.normZero, hman]
  have htext : ((Number.finite x).text).all isDigit = true ∧ ((Number.finite x).text).length ≤ 16 := by
    rcases Nat.eq_zero_or_pos m with rfl | hpos
    · rw [← hx]
      decide
    · rw [text_of_magnitude hmagnitude hpos h, hneg]
      refine ⟨isDigit_decimalText m, ?_⟩
      rw [signText, if_neg Bool.false_ne_true, List.nil_append, decimalText, List.length_map]
      exact length_decimalDigits hpos (h.trans (by norm_num))
  rw [hx]
  refine ⟨⟨rfl, hnorm⟩, ?_, ?_⟩
  · exact rfl
  · have hwritten : (Value.num (.finite x)).written = (Number.finite x).text := rfl
    rw [hwritten, Control.utf8Length_ascii (Control.isAscii_of_digits htext.1)]
    exact htext.2

/-- So is the next one, which is a double as well. -/
theorem brief_ofNat {m : Nat} (h : m ≤ 2 ^ 53) : Brief (.num (.ofNat m)) 16 := by
  rcases Nat.lt_or_eq_of_le h with hlt | rfl
  · exact brief_safe hlt
  · have hexact : (Number.ofNat (2 ^ 53)).isFinite = true
        ∧ (Number.ofNat (2 ^ 53)).normZero = Number.ofNat (2 ^ 53) := by decide +kernel
    have hbytes : utf8Length (Number.ofNat (2 ^ 53)).text ≤ 16 := by decide +kernel
    refine ⟨hexact, hexact.1, ?_⟩
    have hwritten : (Value.num (.ofNat (2 ^ 53))).written = (Number.ofNat (2 ^ 53)).text := by
      rw [Value.written, stringify, if_pos hexact.1, Option.getD_some]
    rw [hwritten]
    exact hbytes

/-- The text of a brief value is read as the value. -/
theorem Brief.read {v : Value} (h : Brief v n) : parse ((stringify v).getD []) = some v
    ∧ utf8Length ((stringify v).getD []) ≤ n := by
  rw [stringify_written h.written, Option.getD_some]
  exact ⟨parse_stringify h.exact (stringify_written h.written), h.bytes⟩

theorem Brief.mono {v : Value} {k : Nat} (h : Brief v n) (hnk : n ≤ k) : Brief v k :=
  ⟨h.exact, h.written, h.bytes.trans hnk⟩

end Briefs

end Worker
