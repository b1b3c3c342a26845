/-
# How large a request can be

The adapter takes a request only if it is a bounded JSON value: of a limited depth, its lists and
dicts of a limited length, and its canonical text of at most 32 KiB.  What a request carries are
texts with bounds of their own, and `Modest` adds them up: a value at a depth, with a bound for the
bytes of its canonical text.

In JSON a text without control characters takes at most twice its bytes, and its quotes.
-/
import Archon.Control.Dispatch

namespace Control

open Ecma Ecma.Value Remediation

/-! ## 1. The bytes of texts -/

theorem unitBytes_pos (u : UInt16) : 1 ≤ unitBytes u := by
  unfold unitBytes
  split
  · exact le_refl 1
  · split <;> omega

theorem unitBytes_le (u : UInt16) : unitBytes u ≤ 3 := by
  unfold unitBytes
  split
  · omega
  · split <;> omega

/-- A surrogate that stands alone is replaced, by three bytes. -/
theorem unitBytes_surrogate {u : UInt16} (h : 0xD800 ≤ u) : unitBytes u = 3 := by
  unfold unitBytes
  rw [UInt16.le_iff_toNat_le] at h
  rw [if_neg, if_neg]
  · rw [UInt16.lt_iff_toNat_lt]
    simp only [UInt16.reduceToNat] at h ⊢
    omega
  · rw [UInt16.lt_iff_toNat_lt]
    simp only [UInt16.reduceToNat] at h ⊢
    omega

theorem le_of_isHigh {u : UInt16} (h : isHigh u = true) : 0xD800 ≤ u :=
  of_decide_eq_true (Bool.and_eq_true_iff.mp h).1

theorem isHigh_of_isLow {u : UInt16} (h : isLow u = true) : isHigh u = false := by
  have h := of_decide_eq_true (Bool.and_eq_true_iff.mp h).1
  simp only [isHigh, Bool.and_eq_false_iff, decide_eq_false_iff_not]
  refine Or.inr fun hu => ?_
  have := UInt16.le_trans h hu
  exact absurd this (by decide)

theorem le_of_isLow {u : UInt16} (h : isLow u = true) : 0xD800 ≤ u :=
  UInt16.le_trans (by decide) (of_decide_eq_true (Bool.and_eq_true_iff.mp h).1)

theorem utf8Length_cons {u : UInt16} (h : isHigh u = false) :
    ∀ t : Text, utf8Length (u :: t) = unitBytes u + utf8Length t
  | [] => rfl
  | v :: t => by rw [utf8Length, h, Bool.false_and, if_neg (by decide)]

/-- At most the bytes of the first unit are added. -/
theorem utf8Length_cons_le (u : UInt16) : ∀ t : Text,
    utf8Length (u :: t) ≤ unitBytes u + utf8Length t
  | [] => le_refl _
  | v :: t => by
    rw [utf8Length]
    split
    · rename_i hpair
      obtain ⟨hhigh, hlow⟩ := Bool.and_eq_true_iff.mp hpair
      rw [utf8Length_cons (isHigh_of_isLow hlow), unitBytes_surrogate (le_of_isHigh hhigh),
        unitBytes_surrogate (le_of_isLow hlow)]
      omega
    · exact le_refl _

theorem utf8Length_le : ∀ t : Text, utf8Length t ≤ 3 * t.length
  | [] => le_refl 0
  | u :: t => by
    have hu := unitBytes_le u
    have ht := utf8Length_le t
    have hcons := utf8Length_cons_le u t
    rw [List.length_cons]
    omega

theorem utf8Length_append_le : ∀ s t : Text, utf8Length (s ++ t) ≤ utf8Length s + utf8Length t
  | [], t => by simp [utf8Length]
  | [u], t => utf8Length_cons_le u t
  | u :: v :: s, t => by
    rw [List.cons_append, List.cons_append, utf8Length, utf8Length]
    split
    · have := utf8Length_append_le s t
      omega
    · have := utf8Length_append_le (v :: s) t
      rw [List.cons_append] at this
      omega

/-- In ASCII a unit is a byte. -/
theorem utf8Length_ascii : ∀ {t : Text}, isAscii t = true → utf8Length t = t.length
  | [], _ => rfl
  | u :: t, h => by
    obtain ⟨hu, ht⟩ := Bool.and_eq_true_iff.mp h
    have hle : u ≤ 0x7E := of_decide_eq_true (Bool.and_eq_true_iff.mp hu).2
    have hhigh : isHigh u = false := by
      rw [isHigh, Bool.and_eq_false_iff, decide_eq_false_iff_not]
      exact Or.inl fun h => absurd (UInt16.le_trans h hle) (by decide)
    have hbyte : unitBytes u = 1 := by
      rw [unitBytes, if_pos]
      exact UInt16.lt_of_le_of_lt hle (by decide)
    rw [utf8Length_cons hhigh, utf8Length_ascii ht, hbyte, List.length_cons, Nat.add_comm]

/-! ## 2. Texts in JSON -/

/-- A text that can be encoded, in so many bytes, and without control characters. -/
structure Fits (t : Text) (n : Nat) : Prop where
  encodable : Jobs.encodable t = true
  calm : ∀ u ∈ t, 0x20 ≤ u
  bytes : utf8Length t ≤ n

theorem fits_ascii {t : Text} {n : Nat} (h : isAscii t = true) (hn : t.length ≤ n) : Fits t n where
  encodable := encodable_of_isAscii h
  calm u hu := of_decide_eq_true (Bool.and_eq_true_iff.mp (List.all_eq_true.mp h u hu)).1
  bytes := by rwa [utf8Length_ascii h]

theorem fits_bounded {t : Text} {n : Nat} (hencodable : Jobs.encodable t = true)
    (h : boundedString t n = true) : Fits t (3 * n) := by
  simp only [boundedString, Bool.and_eq_true, decide_eq_true_eq, List.all_eq_true] at h
  obtain ⟨⟨-, hn⟩, hunits⟩ := h
  refine ⟨hencodable, fun u hu => (hunits u hu).1, ?_⟩
  have := utf8Length_le t
  omega

/-- A unit that is no control character takes at most twice its bytes. -/
theorem utf8Length_escapeUnit {u : UInt16} (h : 0x20 ≤ u) :
    utf8Length (escapeUnit u) ≤ 2 * unitBytes u := by
  have hpos := unitBytes_pos u
  unfold escapeUnit
  split
  · rename_i e he
    -- Only the quote and the backslash are left to escape shortly, each by ASCII.
    have hbytes : utf8Length [0x5C, e] = 2 := by
      simp only [shortEscape] at he
      split_ifs at he with h8 h9 hA hC hD h22 h5C <;> obtain rfl := Option.some.inj he <;> decide
    omega
  · split
    · rename_i hescape
      have hlt : ¬ u < 0x20 := UInt16.not_lt.mpr h
      simp only [hlt, decide_false, Bool.false_or, Bool.or_eq_true] at hescape
      have hsurrogate : unitBytes u = 3 := by
        rcases hescape with hhigh | hlow
        · exact unitBytes_surrogate (le_of_isHigh hhigh)
        · exact unitBytes_surrogate (le_of_isLow hlow)
      have hlength : utf8Length (unicodeEscape u) ≤ 6 := by
        have hascii : isAscii (unicodeEscape u) = true := by
          have hhex : ∀ d, d < 16 → (0x20 ≤ hexUnit d && hexUnit d ≤ 0x7E) = true := by decide
          have h16 : ∀ n, n % 16 < 16 := fun n => Nat.mod_lt n (by decide)
          have htop : u.toNat / 4096 < 16 := by
            have := u.toNat_lt
            omega
          simp only [isAscii, unicodeEscape, List.all_cons, List.all_nil, hhex _ (h16 _),
            hhex _ htop]
          decide
        rw [utf8Length_ascii hascii]
        exact le_refl 6
      omega
    · rw [utf8Length]
      omega

theorem utf8Length_escape : ∀ {t : Text}, (∀ u ∈ t, 0x20 ≤ u) →
    utf8Length (escape t) ≤ 2 * utf8Length t
  | [], _ => le_refl 0
  | [u], h => utf8Length_escapeUnit (h u List.mem_cons_self)
  | u :: v :: t, h => by
    have hv : ∀ w ∈ v :: t, 0x20 ≤ w := fun w hw => h w (List.mem_cons_of_mem u hw)
    rw [escape, utf8Length]
    split
    · rename_i hpair
      have ht := utf8Length_escape fun w hw => hv w (List.mem_cons_of_mem v hw)
      rw [utf8Length, if_pos hpair]
      omega
    · have hu := utf8Length_escapeUnit (h u List.mem_cons_self)
      have ht := utf8Length_escape hv
      have happend := utf8Length_append_le (escapeUnit u) (escape (v :: t))
      omega

/-- **A text in JSON.** -/
theorem utf8Length_quote {t : Text} {n : Nat} (h : Fits t n) :
    utf8Length (quote t) ≤ 2 * n + 2 := by
  have hescape := utf8Length_escape h.calm
  have hbytes := h.bytes
  have happend := utf8Length_append_le (escape t) [0x22]
  have hquote : utf8Length ([0x22] : Text) = 1 := rfl
  have hunit : unitBytes 0x22 = 1 := rfl
  rw [quote, utf8Length_cons (by decide), hunit]
  omega

/-! ## 3. Modest values -/

/-- A value that `_json_value` takes at a depth, and a bound for its canonical text. -/
structure Modest (v : Jobs.Py) (depth n : Nat) : Prop where
  json : Jobs.jsonValue v depth = true
  dumped : ∃ t, Jobs.dumps v = some t ∧ utf8Length t ≤ n

theorem modest_str {t : Text} {n depth : Nat} (h : Fits t n) (hdepth : depth ≤ 12) :
    Modest (.str t) depth (2 * n + 2) where
  json := by
    rw [Jobs.jsonValue, Bool.and_eq_true, decide_eq_true_eq]
    exact ⟨hdepth, rfl⟩
  dumped := ⟨quote t, by rw [Jobs.dumps, h.encodable, if_pos rfl], utf8Length_quote h⟩

/-- A list of one element. -/
theorem modest_singleton {v : Jobs.Py} {n depth : Nat} (h : Modest v (depth + 1) n)
    (hdepth : depth ≤ 12) : Modest (.list [v]) depth (n + 2) where
  json := by
    rw [Jobs.jsonValue, Bool.and_eq_true, decide_eq_true_eq]
    refine ⟨hdepth, ?_⟩
    simp [Jobs.jsonItems, h.json]
  dumped := by
    obtain ⟨t, ht, hn⟩ := h.dumped
    refine ⟨0x5B :: (t ++ [0x5D]), ?_, ?_⟩
    · simp [Jobs.dumps, Jobs.dumpsItems, ht, commaSep]
    · have happend := utf8Length_append_le t [0x5D]
      have hend : utf8Length ([0x5D] : Text) = 1 := rfl
      have hunit : unitBytes 0x5B = 1 := rfl
      rw [utf8Length_cons (by decide), hunit]
      omega

/-- A name of a member. -/
def isName (s : String) : Bool := isAscii (js s) && (js s).length ≤ 32

/-- The bytes of a member, with its comma. -/
def memberBytes (m : Text × Text) : Nat := utf8Length (quote m.1 ++ 0x3A :: m.2) + 1

theorem dumpsFields_bytes {fields : List (String × Jobs.Py)} {ns : List Nat} {depth : Nat}
    (hnames : ∀ f ∈ fields, isName f.1 = true)
    (h : List.Forall₂ (fun f n => Modest f.2 depth n) fields ns) :
    ∃ ms, Jobs.dumpsFields (fields.map fun f => (js f.1, f.2)) = some ms ∧
      (ms.map memberBytes).sum ≤ (ns.map (· + 68)).sum := by
  induction h with
  | nil => exact ⟨[], rfl, le_refl 0⟩
  | @cons f n fields ns hf hfs ih =>
    obtain ⟨hname, hnames⟩ := List.forall_mem_cons.mp hnames
    obtain ⟨hascii, hlength⟩ := Bool.and_eq_true_iff.mp hname
    obtain ⟨ms, hms, hsum⟩ := ih hnames
    obtain ⟨t, ht, hn⟩ := hf.dumped
    refine ⟨(js f.1, t) :: ms, ?_, ?_⟩
    · simp [Jobs.dumpsFields, ht, hms]
    · have hquote := utf8Length_quote (fits_ascii hascii (of_decide_eq_true hlength))
      have happend := utf8Length_append_le (quote (js f.1)) (0x3A :: t)
      have hcolon := utf8Length_cons_le 0x3A t
      have hunit : unitBytes 0x3A = 1 := rfl
      rw [List.map_cons, List.sum_cons, List.map_cons, List.sum_cons, memberBytes]
      dsimp only
      omega

theorem utf8Length_commaSep : ∀ ts : List Text,
    utf8Length (commaSep ts) ≤ (ts.map fun t => utf8Length t + 1).sum
  | [] => le_refl 0
  | [t] => by simp [commaSep]
  | t :: u :: ts => by
    have hrest := utf8Length_commaSep (u :: ts)
    have happend := utf8Length_append_le t (0x2C :: commaSep (u :: ts))
    have hcomma := utf8Length_cons_le 0x2C (commaSep (u :: ts))
    have hunit : unitBytes 0x2C = 1 := rfl
    rw [commaSep, List.map_cons, List.sum_cons]
    · omega
    · simp

theorem jsonFields_of_forall {fields : List (String × Jobs.Py)} {ns : List Nat} {depth : Nat}
    (hnames : ∀ f ∈ fields, isName f.1 = true)
    (h : List.Forall₂ (fun f n => Modest f.2 depth n) fields ns) :
    Jobs.jsonFields (fields.map fun f => (js f.1, f.2)) depth = true := by
  induction h with
  | nil => rfl
  | @cons f n fields ns hf hfs ih =>
    obtain ⟨hname, hnames⟩ := List.forall_mem_cons.mp hnames
    obtain ⟨hascii, hlength⟩ := Bool.and_eq_true_iff.mp hname
    have hlen : Jobs.len (js f.1) ≤ 256 := by
      rw [Jobs.len, codePoints_ascii hascii, List.length_map]
      exact le_trans (of_decide_eq_true hlength) (by decide)
    simp only [List.map_cons, Jobs.jsonFields, Bool.and_eq_true, decide_eq_true_eq]
    exact ⟨⟨hlen, hf.json⟩, ih hnames⟩

/-- **A dict literal is modest where its members are.** -/
theorem modest_object {fields : List (String × Jobs.Py)} {ns : List Nat} {depth : Nat}
    (h : List.Forall₂ (fun f n => Modest f.2 (depth + 1) n) fields ns)
    (hnames : (fields.map Prod.fst).all isName = true) (hlength : fields.length ≤ 256)
    (hdepth : depth ≤ 12) : Modest (.object fields) depth (2 + (ns.map (· + 68)).sum) := by
  have hnames : ∀ f ∈ fields, isName f.1 = true := fun f hf =>
    List.all_eq_true.mp hnames f.1 (List.mem_map_of_mem hf)
  refine ⟨?_, ?_⟩
  · rw [Jobs.Py.object, Jobs.jsonValue, Bool.and_eq_true, decide_eq_true_eq]
    refine ⟨hdepth, ?_⟩
    simp [hlength, jsonFields_of_forall hnames h]
  · obtain ⟨ms, hms, hsum⟩ := dumpsFields_bytes hnames h
    rw [Jobs.Py.object, Jobs.dumps, hms, Option.map_some]
    refine ⟨_, rfl, ?_⟩
    have hperm := ((List.mergeSort_perm ms Jobs.keyLe).map memberBytes).sum_eq
    have hcomma := utf8Length_commaSep
      ((ms.mergeSort Jobs.keyLe).map fun m => quote m.1 ++ 0x3A :: m.2)
    rw [List.map_map] at hcomma
    change _ ≤ ((ms.mergeSort Jobs.keyLe).map memberBytes).sum at hcomma
    have happend := utf8Length_append_le
      (commaSep ((ms.mergeSort Jobs.keyLe).map fun m => quote m.1 ++ 0x3A :: m.2)) [0x7D]
    have hend : utf8Length ([0x7D] : Text) = 1 := rfl
    have hunit : unitBytes 0x7B = 1 := rfl
    rw [utf8Length_cons (by decide), hunit]
    omega

theorem Modest.mono {v : Jobs.Py} {depth n m : Nat} (h : Modest v depth n) (hnm : n ≤ m) :
    Modest v depth m :=
  have ⟨t, ht, hn⟩ := h.dumped
  ⟨h.json, t, ht, le_trans hn hnm⟩

/-- **What `_bounded_request` takes.** -/
theorem boundedRequest_of_modest {fields : List (String × Jobs.Py)}
    (h : Modest (.object fields) 0 Jobs.MAX_REQUEST_BYTES) :
    Jobs.boundedRequest (.object fields) = true := by
  obtain ⟨t, ht, hn⟩ := h.dumped
  rw [Jobs.boundedRequest, h.json, ht]
  simpa using And.intro (show (Jobs.Py.object fields).isDict = true from rfl) hn

end Control
