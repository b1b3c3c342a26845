/-
# The bytes of the canonical text

The companion bounds what it sends by the length of its canonical text in UTF-8.  `bytes` reads that
length off the value: every element and every member brings its own bytes and a comma, so the length of
a list or a dict is a sum, and the order in which the members of a dict are written does not matter
(`utf8Length_dumps`).
-/
import Archon.Companion.Stream
import Archon.Control.Bounds

namespace Companion

open Ecma Jobs

/-! ## 1. Texts in UTF-8 -/

/-- A unit of ASCII ends a text for itself. -/
theorem utf8Length_append_cons {u : UInt16} (hu : u < 0x80) (t : Text) :
    ∀ s : Text, utf8Length (s ++ u :: t) = utf8Length s + 1 + utf8Length t := by
  have hhigh : isHigh u = false := by
    rw [isHigh, Bool.and_eq_false_iff, decide_eq_false_iff_not]
    exact .inl fun h => absurd (UInt16.lt_of_le_of_lt h hu) (by decide)
  have hlow : isLow u = false := by
    rw [isLow, Bool.and_eq_false_iff, decide_eq_false_iff_not]
    exact .inl fun h => absurd (UInt16.lt_of_le_of_lt h hu) (by decide)
  have hone : unitBytes u = 1 := if_pos hu
  have hcons : utf8Length (u :: t) = 1 + utf8Length t := by
    rw [Control.utf8Length_cons hhigh, hone]
  intro s
  induction s using utf8Length.induct with
  | case1 =>
    rw [List.nil_append, hcons]
    rfl
  | case2 v =>
    have hsingle : utf8Length (v :: u :: t) = unitBytes v + utf8Length (u :: t) := by
      rw [utf8Length, hlow, Bool.and_false, if_neg Bool.false_ne_true]
    rw [List.cons_append, List.nil_append, hsingle, hcons, utf8Length]
    omega
  | case3 v w s hpair ih =>
    rw [List.cons_append, List.cons_append, utf8Length, if_pos hpair, ih, utf8Length, if_pos hpair]
    omega
  | case4 v w s hpair ih =>
    rw [List.cons_append, List.cons_append, utf8Length, if_neg hpair, ← List.cons_append, ih, utf8Length,
      if_neg hpair]
    omega

/-- The text stands between two units of ASCII. -/
theorem utf8Length_between {u v : UInt16} (hu : u < 0x80) (hv : v < 0x80) (t : Text) :
    utf8Length (u :: (t ++ [v])) = utf8Length t + 2 := by
  have hfirst := utf8Length_append_cons hu (t ++ [v]) []
  rw [List.nil_append] at hfirst
  rw [hfirst, utf8Length_append_cons hv]
  simp only [utf8Length]
  omega

/-- Texts and their commas, with one comma too many. -/
theorem utf8Length_commaSep_succ : ∀ {ts : List Text}, ts ≠ [] →
    utf8Length (commaSep ts) + 1 = (ts.map fun t => utf8Length t + 1).sum := by
  intro ts
  induction ts using commaSep.induct with
  | case1 =>
    intro h
    exact absurd rfl h
  | case2 t =>
    intro _
    simp [commaSep]
  | case3 t ts hts ih =>
    intro _
    have hts : ts ≠ [] := by simpa using hts
    rw [commaSep, utf8Length_append_cons (by decide), List.map_cons, List.sum_cons, ← ih hts]
    · omega
    · exact hts

/-- The bytes of what is listed, where each item comes with its comma. -/
def listedBytes (sum : ℕ) : ℕ := max 2 (1 + sum)

theorem utf8Length_listed {u v : UInt16} (hu : u < 0x80) (hv : v < 0x80) (ts : List Text) :
    utf8Length (u :: (commaSep ts ++ [v])) = listedBytes (ts.map fun t => utf8Length t + 1).sum := by
  rw [utf8Length_between hu hv]
  by_cases hts : ts = []
  · subst hts
    rfl
  · have hsucc := utf8Length_commaSep_succ hts
    rw [listedBytes]
    omega

/-! ## 2. Values -/

mutual

/-- The bytes of the canonical text of a value that can be encoded. -/
def bytes : Py → ℕ
  | .none => 4
  | .bool b => if b then 4 else 5
  | .int n => utf8Length (intText n)
  | .float repr _ => utf8Length repr
  | .decimal _ => 0
  | .str t => utf8Length (quote t)
  | .list items => listedBytes (bytesItems items)
  | .dict fields => listedBytes (bytesFields fields)

/-- Those of the elements of a list. -/
def bytesItems : List Py → ℕ
  | [] => 0
  | v :: vs => bytes v + 1 + bytesItems vs

/-- Those of the members of a dict. -/
def bytesFields : List (Text × Py) → ℕ
  | [] => 0
  | (k, v) :: fs => utf8Length (quote k) + bytes v + 2 + bytesFields fs

end

theorem bytesItems_eq (vs : List Py) : bytesItems vs = (vs.map fun v => bytes v + 1).sum := by
  induction vs with
  | nil => rfl
  | cons v vs ih => rw [bytesItems, ih, List.map_cons, List.sum_cons]

theorem bytesItems_append (vs ws : List Py) :
    bytesItems (vs ++ ws) = bytesItems vs + bytesItems ws := by
  rw [bytesItems_eq, bytesItems_eq, bytesItems_eq, List.map_append, List.sum_append]

/-- The bytes of a name in a dict literal, of its colon and of the comma. -/
def nameBytes (name : String) : ℕ := utf8Length (quote (js name)) + 2

/-- The bytes of the members of a dict literal. -/
theorem bytesFields_js (fields : List (String × Py)) :
    bytesFields (fields.map fun f => (js f.1, f.2))
      = (fields.map fun f => nameBytes f.1 + bytes f.2).sum := by
  induction fields with
  | nil => rfl
  | cons f fields ih =>
    rw [List.map_cons, bytesFields, ih, List.map_cons, List.sum_cons, nameBytes]
    omega

theorem bytes_object (fields : List (String × Py)) :
    bytes (.object fields) = listedBytes (fields.map fun f => nameBytes f.1 + bytes f.2).sum := by
  rw [Py.object, bytes, bytesFields_js]

/-- The bytes of a member that has been written, with its comma. -/
def writtenBytes (m : Text × Text) : ℕ := utf8Length (quote m.1 ++ 0x3A :: m.2) + 1

theorem writtenBytes_eq (m : Text × Text) :
    writtenBytes m = utf8Length (quote m.1) + utf8Length m.2 + 2 := by
  rw [writtenBytes, utf8Length_append_cons (by decide)]
  omega

/-- The order in which the members are written does not matter. -/
theorem utf8Length_members (ms : List (Text × Text)) :
    utf8Length (0x7B :: (commaSep ((ms.mergeSort keyLe).map fun m => quote m.1 ++ 0x3A :: m.2)
      ++ [0x7D]))
      = listedBytes (ms.map writtenBytes).sum := by
  rw [utf8Length_listed (by decide) (by decide), List.map_map]
  have hperm := (List.mergeSort_perm ms keyLe).map writtenBytes
  rw [← hperm.sum_eq]
  rfl

mutual

/-- **The bytes of a canonical text can be read off the value.** -/
theorem utf8Length_dumps : ∀ (v : Py) {t : Text}, dumps v = some t → utf8Length t = bytes v
  | .none, t, h => by
    obtain rfl := Option.some.inj h
    rfl
  | .bool b, t, h => by
    obtain rfl := Option.some.inj h
    cases b <;> rfl
  | .int n, t, h => by
    obtain rfl := Option.some.inj h
    rfl
  | .float repr isFinite, t, h => by
    rw [dumps] at h
    split at h
    · obtain rfl := Option.some.inj h
      rfl
    · cases h
  | .decimal _, t, h => by cases h
  | .str s, t, h => by
    rw [dumps] at h
    split at h
    · obtain rfl := Option.some.inj h
      rfl
    · cases h
  | .list items, t, h => by
    rw [dumps, Option.map_eq_some_iff] at h
    obtain ⟨ts, hts, rfl⟩ := h
    rw [utf8Length_listed (by decide) (by decide), utf8Length_items items hts, bytes]
  | .dict fields, t, h => by
    rw [dumps, Option.map_eq_some_iff] at h
    obtain ⟨ms, hms, rfl⟩ := h
    rw [utf8Length_members, utf8Length_fields fields hms, bytes]

theorem utf8Length_items : ∀ (vs : List Py) {ts : List Text}, dumpsItems vs = some ts →
    (ts.map fun t => utf8Length t + 1).sum = bytesItems vs
  | [], ts, h => by
    obtain rfl := Option.some.inj h
    rfl
  | v :: vs, ts, h => by
    simp only [dumpsItems, bind, Option.bind_eq_some_iff] at h
    obtain ⟨t, ht, us, hus, h⟩ := h
    obtain rfl := Option.some.inj h
    rw [List.map_cons, List.sum_cons, utf8Length_dumps v ht, utf8Length_items vs hus, bytesItems]

theorem utf8Length_fields : ∀ (fs : List (Text × Py)) {ms : List (Text × Text)},
    dumpsFields fs = some ms → (ms.map writtenBytes).sum = bytesFields fs
  | [], ms, h => by
    obtain rfl := Option.some.inj h
    rfl
  | (k, v) :: fs, ms, h => by
    rw [dumpsFields] at h
    split at h
    · simp only [bind, Option.bind_eq_some_iff] at h
      obtain ⟨t, ht, ns, hns, h⟩ := h
      obtain rfl := Option.some.inj h
      rw [List.map_cons, List.sum_cons, writtenBytes_eq, utf8Length_dumps v ht, utf8Length_fields fs hns,
        bytesFields]
    · cases h

end

/-! ## 3. Texts of ASCII -/

/-- A unit of ASCII is written in ASCII. -/
theorem escapeUnit_ascii {u : UInt16} (h : u < 0x7F) :
    Control.isAscii (escapeUnit u) = true ∧ isHigh u = false := by
  have hunits : ∀ n : Fin 127, Control.isAscii (escapeUnit (UInt16.ofNat n)) = true
      ∧ isHigh (UInt16.ofNat n) = false := by
    decide
  have hlt : u.toNat < 127 := UInt16.lt_iff_toNat_lt.mp h
  have hu : UInt16.ofNat (⟨u.toNat, hlt⟩ : Fin 127) = u := UInt16.ofNat_toNat
  rw [← hu]
  exact hunits ⟨u.toNat, hlt⟩

theorem escape_ascii : ∀ {t : Text}, (∀ u ∈ t, u < 0x7F) → escape t = t.flatMap escapeUnit := by
  intro t
  induction t using escape.induct with
  | case1 =>
    intro _
    rfl
  | case2 u =>
    intro _
    simp [escape]
  | case3 u v t hpair ih =>
    intro h
    rw [(escapeUnit_ascii (h u List.mem_cons_self)).2] at hpair
    cases hpair
  | case4 u v t hpair ih =>
    intro h
    rw [escape, if_neg hpair, ih (List.forall_mem_cons.mp h).2]
    rfl

/-- A text of ASCII takes what its units take, and the quotes. -/
theorem bytes_ascii {t : Text} (h : ∀ u ∈ t, u < 0x7F) :
    bytes (.str t) = (t.map fun u => (escapeUnit u).length).sum + 2 := by
  have hascii : Control.isAscii (t.flatMap escapeUnit) = true := by
    rw [Control.isAscii, List.all_flatMap, List.all_eq_true]
    intro u hu
    exact (escapeUnit_ascii (h u hu)).1
  rw [bytes, quote, escape_ascii h, utf8Length_between (by decide) (by decide),
    Control.utf8Length_ascii hascii, List.length_flatMap]

theorem bytes_bool (b : Bool) : bytes (.bool b) = if b then 4 else 5 := rfl

/-- A hexadecimal digit stands for itself. -/
theorem escapeUnit_hex {u : UInt16} (h : Remediation.isHexDigit u = true) :
    u < 0x7F ∧ (escapeUnit u).length = 1 := by
  have hunits : ∀ n : Fin 127, Remediation.isHexDigit (UInt16.ofNat n) = true →
      (escapeUnit (UInt16.ofNat n)).length = 1 := by
    decide
  have hlt : u.toNat < 127 := by
    simp only [Remediation.isHexDigit, Bool.or_eq_true, Bool.and_eq_true, decide_eq_true_eq,
      UInt16.le_iff_toNat_le, UInt16.reduceToNat] at h
    omega
  have hu : UInt16.ofNat (⟨u.toNat, hlt⟩ : Fin 127) = u := UInt16.ofNat_toNat
  refine ⟨UInt16.lt_iff_toNat_lt.mpr hlt, ?_⟩
  have hunit := hunits ⟨u.toNat, hlt⟩
  rw [hu] at hunit
  exact hunit h

/-- A digest takes 73 bytes. -/
theorem bytes_digest {d : Text} (h : isDigest d = true) : bytes (.str d) = 73 := by
  simp only [isDigest, Bool.and_eq_true, decide_eq_true_eq] at h
  obtain ⟨⟨hstart, hlength⟩, hhex⟩ := h
  obtain ⟨t, rfl⟩ := List.isPrefixOf_iff_prefix.mp hstart
  have hseven : (js "sha256:").length = 7 := by decide
  rw [← hseven, List.drop_left, List.all_eq_true] at hhex
  rw [List.length_append, hseven] at hlength
  have hunits : ((js "sha256:").all fun u => decide (u < 0x7F)) = true := by decide
  have hsum : (t.map fun u => (escapeUnit u).length).sum = t.length := by
    rw [List.map_congr_left fun u hu => (escapeUnit_hex (hhex u hu)).2, List.map_const',
      List.sum_replicate]
    simp
  have hfirst : ((js "sha256:").map fun u => (escapeUnit u).length).sum = 7 := by decide
  rw [bytes_ascii, List.map_append, List.sum_append, hfirst, hsum]
  · omega
  · intro u hu
    rcases List.mem_append.mp hu with hu | hu
    · exact of_decide_eq_true (List.all_eq_true.mp hunits u hu)
    · exact (escapeUnit_hex (hhex u hu)).1

end Companion
