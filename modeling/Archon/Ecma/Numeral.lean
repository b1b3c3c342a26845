/-
# Numerals: printing a double and reading it back

`Number.text` is `Number::toString` in base ten: the shortest digits, laid out plainly while the
decimal exponent is small and with an exponent otherwise.  `readNumber` is the number production
of the JSON grammar: it takes the longest numeral off the front of a text and rounds its value
to the nearest double.

`readNumber_text` is what the canonical text needs: what was printed for a finite number is read
back as that number, except that `-0`, which is printed `0`, comes back as `+0`.  The four layouts
of `Number::toString` are the four cases of its proof; in each, the digits and the exponent that
the reader collects have the value `shortest` promised (`numeralValue_eq`).
-/
import Archon.Ecma.Binary64
import Archon.Ecma.Text

namespace Ecma

open Binary64

namespace Number

/-- The number a natural literal or counter denotes. -/
def ofNat (n : Nat) : Number := ofMagnitude false n

/-- `+0` in place of `-0`, every other number as it is. -/
def normZero : Number → Number
  | .finite x => if x.man = 0 then .finite (zero false) else .finite x
  | x => x

/-- The digits `ds` of a positive number with decimal exponent `n`, as `Number::toString` lays
them out. -/
def layout (ds : List Nat) (n : Int) : Text :=
  let k := ds.length
  let units := ds.map digitUnit
  if (k : Int) ≤ n ∧ n ≤ 21 then units ++ List.replicate (n - k).toNat (digitUnit 0)
  else if 0 < n ∧ n ≤ 21 then units.take n.toNat ++ js "." ++ units.drop n.toNat
  else if -6 < n ∧ n ≤ 0 then js "0." ++ List.replicate (-n).toNat (digitUnit 0) ++ units
  else
    units.take 1 ++ (if k = 1 then [] else js "." ++ units.drop 1) ++
      (if 0 ≤ n - 1 then js "e+" else js "e-") ++ decimalText (n - 1).natAbs

/-- `String(x)`. -/
def text : Number → Text
  | .nan => js "NaN"
  | .infinity neg => (if neg then js "-" else []) ++ js "Infinity"
  | .finite x =>
    if x.man = 0 then js "0"
    else
      let d := shortest x
      let ds := decimalDigits d.sig
      (if x.neg then js "-" else []) ++ layout ds (d.pow + ds.length)

end Number

/-! ## 1. The grammar -/

/-- The digits at the front of a text, and what follows them. -/
def readDigits (t : Text) : List Nat × Text :=
  ((t.takeWhile isDigit).map digitValue, t.dropWhile isDigit)

/-- The integer part: a lone zero, or digits that do not begin with one. -/
def readInt (t : Text) : Option (List Nat × Text) :=
  match readDigits t with
  | ([], _) => none
  | (0 :: _ :: _, _) => none
  | (ds, r) => some (ds, r)

/-- The fraction, if a point follows. -/
def readFrac (t : Text) : Option (List Nat × Text) :=
  match t with
  | u :: r =>
    if u = 0x2E then
      match readDigits r with
      | ([], _) => none
      | (ds, r') => some (ds, r')
    else some ([], t)
  | [] => some ([], [])

/-- The sign of an exponent, if there is one. -/
def readSign (t : Text) : Bool × Text :=
  match t with
  | u :: r => if u = 0x2D then (true, r) else if u = 0x2B then (false, r) else (false, t)
  | [] => (false, [])

/-- The exponent, if an `e` follows. -/
def readExp (t : Text) : Option (Int × Text) :=
  match t with
  | u :: r =>
    if u = 0x65 ∨ u = 0x45 then
      match readDigits (readSign r).2 with
      | ([], _) => none
      | (ds, r') =>
        some (if (readSign r).1 then -(digitsValue ds : Int) else digitsValue ds, r')
    else some (0, t)
  | [] => some (0, [])

/-- The rational that an integer part, a fraction and an exponent spell. -/
def numeralValue (int frac : List Nat) (exp : Int) : ℚ :=
  digitsValue (int ++ frac) * 10 ^ (exp - frac.length)

/-- A numeral without its sign. -/
def readMagnitude (t : Text) : Option (ℚ × Text) := do
  let (int, t₁) ← readInt t
  let (frac, t₂) ← readFrac t₁
  let (exp, t₃) ← readExp t₂
  return (numeralValue int frac exp, t₃)

/-- The number production of the JSON grammar, on the front of a text. -/
def readNumber (t : Text) : Option (Number × Text) :=
  match t with
  | u :: r =>
    if u = 0x2D then (readMagnitude r).map fun p => (ofMagnitude true p.1, p.2)
    else (readMagnitude t).map fun p => (ofMagnitude false p.1, p.2)
  | [] => none

/-- The value of a digit in a base up to sixteen, if it is one. -/
def baseDigit (base : Nat) (u : UInt16) : Option Nat :=
  let d :=
    if isDigit u then digitValue u
    else if 0x61 ≤ u && u ≤ 0x66 then u.toNat - 0x61 + 10
    else if 0x41 ≤ u && u ≤ 0x46 then u.toNat - 0x41 + 10
    else 16
  if d < base then some d else none

/-- The digits of a literal with a base prefix. -/
def readBase (base : Nat) (t : Text) : Number :=
  match t.mapM (baseDigit base) with
  | some (d :: ds) => ofMagnitude false ((d :: ds).foldl (fun n e => base * n + e) 0 : Nat)
  | _ => .nan

/-- A decimal literal of `Number(s)`, which unlike a JSON numeral may begin with zeros and may
leave out one side of the point. -/
def readDecimal (neg : Bool) (t : Text) : Number :=
  if t = js "Infinity" then .infinity neg
  else
    let (int, t₁) := readDigits t
    let (frac, t₂) := match t₁ with
      | u :: r => if u = 0x2E then readDigits r else ([], t₁)
      | [] => ([], [])
    match readExp t₂ with
    | some (exp, []) =>
      if int = [] ∧ frac = [] then .nan else ofMagnitude neg (numeralValue int frac exp)
    | _ => .nan

/-- `Number(s)`. -/
def Number.ofText (t : Text) : Number :=
  match trim t with
  | [] => .ofNat 0
  | [u] => readDecimal false [u]
  | u :: v :: r =>
    if u = 0x2D then readDecimal true (v :: r)
    else if u = 0x2B then readDecimal false (v :: r)
    else if u = 0x30 ∧ (v = 0x78 ∨ v = 0x58) then readBase 16 r
    else if u = 0x30 ∧ (v = 0x6F ∨ v = 0x4F) then readBase 8 r
    else if u = 0x30 ∧ (v = 0x62 ∨ v = 0x42) then readBase 2 r
    else readDecimal false (u :: v :: r)

/-! ## 2. Reading printed digits -/

/-- No numeral goes on into `r`: it starts with no digit, point or exponent mark. -/
def EndsNumeral (r : Text) : Prop :=
  ∀ u s, r = u :: s → isDigit u = false ∧ u ≠ 0x2E ∧ u ≠ 0x65 ∧ u ≠ 0x45

theorem endsNumeral_nil : EndsNumeral [] := fun _ _ h => by cases h

theorem endsNumeral_cons {u : UInt16} {r : Text} (h : isDigit u = false)
    (h' : u ≠ 0x2E ∧ u ≠ 0x65 ∧ u ≠ 0x45) : EndsNumeral (u :: r) := by
  intro v s hv
  cases hv
  exact ⟨h, h'⟩

theorem takeWhile_isDigit {us r : Text} (h : ∀ u ∈ us, isDigit u = true)
    (hr : ∀ u s, r = u :: s → isDigit u = false) :
    (us ++ r).takeWhile isDigit = us ∧ (us ++ r).dropWhile isDigit = r := by
  induction us with
  | nil =>
    cases r with
    | nil => simp
    | cons u s => simp [hr u s rfl]
  | cons u us ih =>
    have hu : isDigit u = true := h u (by simp)
    have ⟨h1, h2⟩ := ih (fun v hv => h v (by simp [hv]))
    simp [hu, h1, h2]

theorem map_digitValue_digitUnit {ds : List Nat} (h : ∀ d ∈ ds, d < 10) :
    (ds.map digitUnit).map digitValue = ds := by
  rw [List.map_map]
  conv_rhs => rw [← List.map_id ds]
  exact List.map_congr_left fun d hd => digitValue_digitUnit (h d hd)

theorem readDigits_append {ds : List Nat} {r : Text} (h : ∀ d ∈ ds, d < 10)
    (hr : ∀ u s, r = u :: s → isDigit u = false) :
    readDigits (ds.map digitUnit ++ r) = (ds, r) := by
  have hall : ∀ u ∈ ds.map digitUnit, isDigit u = true := by
    intro u hu
    obtain ⟨d, hd, rfl⟩ := List.mem_map.mp hu
    exact isDigit_digitUnit (h d hd)
  have ⟨h1, h2⟩ := takeWhile_isDigit hall hr
  rw [readDigits, h1, h2, map_digitValue_digitUnit h]

theorem readInt_append {d : Nat} {ds : List Nat} {r : Text} (h : ∀ e ∈ d :: ds, e < 10)
    (hd : d ≠ 0 ∨ ds = []) (hr : ∀ u s, r = u :: s → isDigit u = false) :
    readInt ((d :: ds).map digitUnit ++ r) = some (d :: ds, r) := by
  unfold readInt
  rw [readDigits_append h hr]
  rcases hd with hd | rfl
  · cases d with
    | zero => exact absurd rfl hd
    | succ d => cases ds <;> rfl
  · cases d <;> rfl

theorem readInt_digit {d : Nat} {r : Text} (h : d < 10)
    (hr : ∀ u s, r = u :: s → isDigit u = false) :
    readInt ([d].map digitUnit ++ r) = some ([d], r) :=
  readInt_append (by simpa using h) (Or.inr rfl) hr

theorem readFrac_append {ds : List Nat} {r : Text} (h : ∀ e ∈ ds, e < 10) (hne : ds ≠ [])
    (hr : ∀ u s, r = u :: s → isDigit u = false) :
    readFrac (js "." ++ ds.map digitUnit ++ r) = some (ds, r) := by
  have hp : js "." = [0x2E] := by decide
  rw [hp, List.append_assoc]
  simp only [List.cons_append, List.nil_append, readFrac, if_true]
  rw [readDigits_append h hr]
  cases ds with
  | nil => exact absurd rfl hne
  | cons d ds => rfl

theorem readFrac_ends {r : Text} (h : ∀ u s, r = u :: s → u ≠ 0x2E) : readFrac r = some ([], r) := by
  cases r with
  | nil => rfl
  | cons u s => simp [readFrac, h u s rfl]

theorem readExp_ends {r : Text} (h : EndsNumeral r) : readExp r = some (0, r) := by
  cases r with
  | nil => rfl
  | cons u s =>
    obtain ⟨-, -, h1, h2⟩ := h u s rfl
    simp [readExp, h1, h2]

/-- The number is read back from its digits. -/
theorem decimalText_inj {m n : Nat} (h : decimalText m = decimalText n) : m = n := by
  have hdigits := congrArg (List.map digitValue) h
  rw [decimalText, decimalText, map_digitValue_digitUnit fun _ => decimalDigits_lt,
    map_digitValue_digitUnit fun _ => decimalDigits_lt] at hdigits
  rw [← digitsValue_decimalDigits m, hdigits, digitsValue_decimalDigits]

/-- The exponent part that the last layout prints. -/
theorem readExp_append (e : Int) {r : Text} (hr : EndsNumeral r) :
    readExp ((if 0 ≤ e then js "e+" else js "e-") ++ decimalText e.natAbs ++ r) = some (e, r) := by
  have hp : js "e+" = [0x65, 0x2B] := by decide
  have hm : js "e-" = [0x65, 0x2D] := by decide
  have hd : ∀ s : Text, readDigits (decimalText e.natAbs ++ r) = (decimalDigits e.natAbs, r) :=
    fun _ => readDigits_append (fun d h => decimalDigits_lt h) (fun u s h => (hr u s h).1)
  have hne := decimalDigits_ne_nil e.natAbs
  have hv := digitsValue_decimalDigits e.natAbs
  cases hds : decimalDigits e.natAbs with
  | nil => exact absurd hds hne
  | cons d ds =>
    rw [hds] at hd hv
    split
    · rename_i he
      rw [hp]
      simp only [List.cons_append, List.nil_append, readExp, readSign, true_or, if_true,
        if_neg (by decide : ¬ ((0x2B : UInt16) = 0x2D)), hd []]
      rw [hv]
      simp [abs_of_nonneg he]
    · rename_i he
      rw [hm]
      simp only [List.cons_append, List.nil_append, readExp, readSign, true_or, if_true, hd []]
      rw [hv]
      simp [abs_of_neg (not_le.mp he)]

/-! ## 3. The four layouts -/

theorem not_isDigit_point {r : Text} : ∀ u s, js "." ++ r = u :: s → isDigit u = false := by
  intro u s h
  have hp : js "." = [0x2E] := by decide
  rw [hp] at h
  obtain ⟨rfl, -⟩ := List.cons.inj h
  decide

theorem head_exp {e : Int} {r : Text} (u : UInt16) (s : Text)
    (h : (if 0 ≤ e then js "e+" else js "e-") ++ r = u :: s) : u = 0x65 := by
  have hp : js "e+" = [0x65, 0x2B] := by decide
  have hm : js "e-" = [0x65, 0x2D] := by decide
  split at h
  · rw [hp] at h; exact (List.cons.inj h).1.symm
  · rw [hm] at h; exact (List.cons.inj h).1.symm

theorem numeralValue_eq (ds : List Nat) (int frac : List Nat) (exp pow : Int)
    (hv : digitsValue (int ++ frac) = digitsValue ds) (he : exp - frac.length = pow) :
    numeralValue int frac exp = digitsValue ds * 10 ^ pow := by
  rw [numeralValue, hv, he]

/-- A laid out numeral is read as `digits * 10 ^ pow`, whichever layout was taken. -/
theorem readMagnitude_layout {d : Nat} {ds : List Nat} (pow : Int) {r : Text}
    (hlt : ∀ e ∈ d :: ds, e < 10) (hd : d ≠ 0) (hr : EndsNumeral r) :
    readMagnitude (Number.layout (d :: ds) (pow + (d :: ds).length) ++ r)
      = some ((digitsValue (d :: ds) : ℚ) * 10 ^ pow, r) := by
  have hrd : ∀ u s, r = u :: s → isDigit u = false := fun u s h => (hr u s h).1
  have hrp : ∀ u s, r = u :: s → u ≠ 0x2E := fun u s h => (hr u s h).2.1
  unfold Number.layout
  simp only
  split
  · -- an integer: the digits, then zeros
    rename_i h
    obtain ⟨m, hm⟩ : ∃ m : Nat, pow = m := Int.eq_ofNat_of_zero_le (by omega)
    have hz : List.replicate (pow + (d :: ds).length - (d :: ds).length).toNat (digitUnit 0)
        = (List.replicate m 0).map digitUnit := by
      rw [List.map_replicate]; congr 1; omega
    have hlt' : ∀ e ∈ d :: (ds ++ List.replicate m 0), e < 10 := by
      intro e he
      rw [← List.cons_append] at he
      rcases List.mem_append.mp he with he | he
      · exact hlt e he
      · rw [List.eq_of_mem_replicate he]; norm_num
    rw [hz, ← List.map_append, List.cons_append, readMagnitude,
      readInt_append hlt' (Or.inl hd) hrd]
    simp only [Option.bind_eq_bind, Option.bind_some, readFrac_ends hrp, readExp_ends hr]
    congr 2
    rw [numeralValue, ← List.cons_append, List.append_nil, digitsValue_append_list,
      digitsValue_replicate_zero, hm]
    simp
  · split
    · -- a point inside the digits
      rename_i h1 h
      obtain ⟨m, hm⟩ : ∃ m : Nat, pow + (d :: ds).length = m + 1 :=
        ⟨(pow + (d :: ds).length - 1).toNat, by omega⟩
      have hmlt : m < ds.length := by
        simp only [List.length_cons] at h1 h hm
        push_cast at h1 h hm
        omega
      have hto : (pow + ((d :: ds).length : Int)).toNat = m + 1 := by omega
      rw [hto, ← List.map_take, ← List.map_drop, List.take_succ_cons, List.drop_succ_cons]
      have hint : ∀ e ∈ d :: ds.take m, e < 10 := by
        intro e he
        rcases List.mem_cons.mp he with rfl | he
        · exact hlt e (by simp)
        · exact hlt e (List.mem_cons_of_mem _ (List.mem_of_mem_take he))
      have hfrac : ∀ e ∈ ds.drop m, e < 10 := fun e he =>
        hlt e (List.mem_cons_of_mem _ (List.mem_of_mem_drop he))
      have hne : ds.drop m ≠ [] := by
        intro h0
        have := congrArg List.length h0
        simp at this; omega
      rw [List.append_assoc, List.append_assoc, readMagnitude,
        readInt_append hint (Or.inl hd) not_isDigit_point]
      simp only [Option.bind_eq_bind, Option.bind_some]
      rw [← List.append_assoc, readFrac_append hfrac hne hrd]
      simp only [Option.bind_some, readExp_ends hr]
      congr 2
      refine numeralValue_eq (d :: ds) _ _ _ _ ?_ ?_
      · rw [List.cons_append, List.take_append_drop]
      · simp only [List.length_drop]
        simp only [List.length_cons] at hm
        push_cast at hm
        omega
    · split
      · -- a fraction below one
        rename_i h1 h2 h
        obtain ⟨m, hm⟩ : ∃ m : Nat, -(pow + (d :: ds).length) = m :=
          Int.eq_ofNat_of_zero_le (by omega)
        have hz : List.replicate (-(pow + ((d :: ds).length : Int))).toNat (digitUnit 0)
            = (List.replicate m 0).map digitUnit := by
          rw [List.map_replicate]; congr 1; omega
        have h0 : js "0." = [0].map digitUnit ++ js "." := by decide
        have hfrac : ∀ e ∈ List.replicate m 0 ++ d :: ds, e < 10 := by
          intro e he
          rcases List.mem_append.mp he with he | he
          · rw [List.eq_of_mem_replicate he]; norm_num
          · exact hlt e he
        have hshape : js "0." ++ (List.replicate m 0).map digitUnit ++ (d :: ds).map digitUnit ++ r
            = [0].map digitUnit
              ++ (js "." ++ ((List.replicate m 0 ++ d :: ds).map digitUnit ++ r)) := by
          rw [h0, List.map_append]
          simp only [List.append_assoc]
        rw [hz, hshape, readMagnitude,
          readInt_digit (by norm_num) not_isDigit_point]
        simp only [Option.bind_eq_bind, Option.bind_some]
        rw [← List.append_assoc, readFrac_append hfrac (by simp) hrd]
        simp only [Option.bind_some, readExp_ends hr]
        congr 2
        refine numeralValue_eq (d :: ds) _ _ _ _ ?_ ?_
        · rw [List.cons_append, List.nil_append, digitsValue_cons, digitsValue_append_list,
            digitsValue_replicate_zero]
          simp
        · simp only [List.length_append, List.length_replicate, List.length_cons] at hm ⊢
          push_cast at hm ⊢
          omega
      · -- an exponent
        have hexp := readExp_append (pow + (d :: ds).length - 1) hr
        have htail := fun t => head_exp (e := pow + (d :: ds).length - 1) (r := t)
        cases ds with
        | nil =>
          simp only [List.map_cons, List.map_nil, List.take_succ_cons, List.take_zero,
            List.length_cons, List.length_nil, if_true, List.append_nil, List.append_assoc]
            at hexp htail ⊢
          rw [show [digitUnit d] = [d].map digitUnit from rfl, readMagnitude,
            readInt_append hlt (Or.inl hd) (fun u s h => by rw [htail _ u s h]; decide)]
          simp only [Option.bind_eq_bind, Option.bind_some]
          rw [readFrac_ends (fun u s h => by rw [htail _ u s h]; decide)]
          simp only [Option.bind_some, hexp]
          congr 2
          refine numeralValue_eq [d] _ _ _ _ (by simp) ?_
          simp
        | cons d' ds =>
          have hne : ¬ ((d :: d' :: ds).length = 1) := by simp
          rw [if_neg hne]
          simp only [List.map_cons, List.take_succ_cons, List.take_zero, List.drop_succ_cons,
            List.drop_zero, List.append_assoc] at hexp htail ⊢
          rw [show [digitUnit d] = [d].map digitUnit from rfl, readMagnitude,
            readInt_digit (hlt d (by simp)) not_isDigit_point]
          simp only [Option.bind_eq_bind, Option.bind_some]
          rw [← List.map_cons, ← List.append_assoc,
            readFrac_append (fun e he => hlt e (List.mem_cons_of_mem _ he)) (by simp)
              (fun u s h => by rw [htail _ u s h]; decide)]
          simp only [Option.bind_some, hexp]
          congr 2
          refine numeralValue_eq (d :: d' :: ds) _ _ _ _ (by simp) ?_
          simp only [List.length_cons]
          push_cast
          omega

/-! ## 4. Reading a printed number -/

theorem layout_head (d : Nat) (ds : List Nat) (n : Int) (hlt : d < 10) :
    ∃ u s, Number.layout (d :: ds) n = u :: s ∧ isDigit u = true := by
  have hu : isDigit (digitUnit d) = true := isDigit_digitUnit hlt
  have h0 : js "0." = [0x30, 0x2E] := by decide
  unfold Number.layout
  simp only [List.map_cons]
  split
  · exact ⟨_, _, rfl, hu⟩
  · split
    · rename_i h
      obtain ⟨m, hm⟩ : ∃ m : Nat, n.toNat = m + 1 := ⟨n.toNat - 1, by omega⟩
      rw [hm, List.take_succ_cons]
      exact ⟨_, _, rfl, hu⟩
    · split
      · rw [h0]
        exact ⟨_, _, rfl, by decide⟩
      · exact ⟨_, _, rfl, hu⟩

/-- **A printed number reads back.**  `-0` is printed without its sign and reads back as `+0`;
every other finite number reads back as itself. -/
theorem readNumber_text (x : Binary64) {r : Text} (hr : EndsNumeral r) :
    readNumber (Number.text (.finite x) ++ r) = some (Number.normZero (.finite x), r) := by
  unfold Number.text Number.normZero
  simp only
  split
  · have h0 : js "0" = [0].map digitUnit := by decide
    have hread : readMagnitude (js "0" ++ r) = some (0, r) := by
      rw [h0, readMagnitude, readInt_digit (by norm_num) (fun u s h => (hr u s h).1)]
      simp [readFrac_ends (fun u s h => (hr u s h).2.1), readExp_ends hr, numeralValue,
        digitsValue]
    rw [show js "0" ++ r = digitUnit 0 :: r from rfl] at hread ⊢
    simp only [readNumber, if_neg (by decide : ¬ digitUnit 0 = 0x2D), hread, Option.map_some,
      ofMagnitude, lt_irrefl, dite_false]
  · rename_i hm
    obtain ⟨d, ds, hds, hd⟩ := decimalDigits_head (shortest_sig_ne_zero hm)
    have hlt : ∀ e ∈ d :: ds, e < 10 := fun e he => decimalDigits_lt (hds ▸ he)
    have hval : (digitsValue (d :: ds) : ℚ) * 10 ^ (shortest x).pow = (shortest x).value := by
      rw [← hds, digitsValue_decimalDigits]; rfl
    have hread := readMagnitude_layout (shortest x).pow hlt hd hr
    have hback := ofMagnitude_shortest x
    rw [hds]
    obtain ⟨u, s, hu, hdig⟩ := layout_head d ds ((shortest x).pow + ((d :: ds).length : Int))
      (hlt d (by simp))
    have hne : u ≠ 0x2D := by rintro rfl; exact absurd hdig (by decide)
    have hm' : js "-" = [0x2D] := by decide
    cases hneg : x.neg with
    | true =>
      rw [hneg] at hback
      simp only [if_true, hm', List.cons_append, List.nil_append, readNumber, hread,
        Option.map_some, hval, hback]
    | false =>
      rw [hneg] at hback
      rw [hu] at hread ⊢
      simp only [Bool.false_eq_true, if_false, List.nil_append, List.cons_append] at hread ⊢
      simp only [readNumber, if_neg hne, hread, Option.map_some, hval, hback]

end Ecma
