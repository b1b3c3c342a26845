/-
# Maps in the order of their entries

`Map` of the language: entries with different keys, in the order in which the keys were first set.
Setting a key that is there replaces its value in place; a new key comes last.  A structure carries
the fact that the keys are different, so that what is stored under a key is an entry and the other
way round (`mem_iff_get`).  A `Set` is a map to nothing.
-/
import Mathlib.Data.List.Nodup
import Mathlib.Data.List.Basic

namespace Ecma

variable {κ α : Type} [DecidableEq κ]

/-! ## 1. Lists of entries -/

/-- What is stored under a key. -/
def getEntry (k : κ) : List (κ × α) → Option α
  | [] => none
  | e :: es => if e.1 = k then some e.2 else getEntry k es

/-- Replace what is stored under a key, or append it. -/
def setEntry (k : κ) (a : α) : List (κ × α) → List (κ × α)
  | [] => [(k, a)]
  | e :: es => if e.1 = k then (k, a) :: es else e :: setEntry k a es

theorem getEntry_setEntry (k k' : κ) (a : α) (es : List (κ × α)) :
    getEntry k' (setEntry k a es) = if k = k' then some a else getEntry k' es := by
  induction es with
  | nil => rfl
  | cons e es ih =>
    rw [setEntry]
    by_cases he : e.1 = k
    · rw [if_pos he, getEntry, getEntry, he]
      split <;> rfl
    · rw [if_neg he, getEntry, getEntry, ih]
      by_cases hk : k = k'
      · subst hk
        rw [if_neg he, if_pos rfl, if_pos rfl]
      · rw [if_neg hk]
        split <;> rfl

theorem mem_keys_setEntry {k k' : κ} {a : α} {es : List (κ × α)} :
    k' ∈ (setEntry k a es).map Prod.fst ↔ k' = k ∨ k' ∈ es.map Prod.fst := by
  induction es with
  | nil => simp [setEntry]
  | cons e es ih =>
    rw [setEntry]
    by_cases he : e.1 = k
    · rw [if_pos he, List.map_cons, List.map_cons, List.mem_cons, List.mem_cons, he]
      tauto
    · rw [if_neg he, List.map_cons, List.map_cons, List.mem_cons, List.mem_cons, ih]
      exact or_left_comm

theorem nodup_setEntry {k : κ} {a : α} {es : List (κ × α)} (h : (es.map Prod.fst).Nodup) :
    ((setEntry k a es).map Prod.fst).Nodup := by
  induction es with
  | nil => simp [setEntry]
  | cons e es ih =>
    obtain ⟨he, hes⟩ := List.nodup_cons.mp h
    rw [setEntry]
    by_cases hk : e.1 = k
    · rw [if_pos hk, List.map_cons, ← hk]
      exact h
    · rw [if_neg hk, List.map_cons]
      refine List.nodup_cons.mpr ⟨fun hmem => ?_, ih hes⟩
      rcases mem_keys_setEntry.mp hmem with heq | hmem
      · exact hk heq
      · exact he hmem

theorem getEntry_eq_none {k : κ} {es : List (κ × α)} :
    getEntry k es = none ↔ k ∉ es.map Prod.fst := by
  induction es with
  | nil => simp [getEntry]
  | cons e es ih =>
    rw [getEntry, List.map_cons, List.mem_cons, not_or, ← ih]
    by_cases he : e.1 = k
    · simp [he]
    · simp [he, Ne.symm he]

theorem mem_iff_getEntry {k : κ} {a : α} {es : List (κ × α)} (h : (es.map Prod.fst).Nodup) :
    (k, a) ∈ es ↔ getEntry k es = some a := by
  induction es with
  | nil => simp [getEntry]
  | cons e es ih =>
    obtain ⟨he, hes⟩ := List.nodup_cons.mp h
    rw [getEntry, List.mem_cons, ih hes]
    by_cases hk : e.1 = k
    · subst hk
      rw [if_pos rfl, getEntry_eq_none.mpr he, Option.some_inj]
      constructor
      · rintro (heq | hcases)
        · rw [← heq]
        · cases hcases
      · rintro rfl
        exact .inl rfl
    · rw [if_neg hk]
      refine ⟨fun h => h.resolve_left ?_, .inr⟩
      rintro rfl
      exact hk rfl

theorem getEntry_map {β : Type} (f : α → β) (k : κ) (es : List (κ × α)) :
    getEntry k (es.map fun e => (e.1, f e.2)) = (getEntry k es).map f := by
  induction es with
  | nil => rfl
  | cons e es ih =>
    rw [List.map_cons, getEntry, getEntry, ih]
    split <;> rfl

/-- A key that is not there comes last. -/
theorem setEntry_of_not_mem {k : κ} {a : α} {es : List (κ × α)} (h : k ∉ es.map Prod.fst) :
    setEntry k a es = es ++ [(k, a)] := by
  induction es with
  | nil => rfl
  | cons e es ih =>
    obtain ⟨hk, hes⟩ := not_or.mp (List.mem_cons.not.mp h)
    rw [setEntry, if_neg (Ne.symm hk), ih hes, List.cons_append]

/-! ## 2. Maps -/

/-- A `Map`. -/
@[ext]
structure JsMap (κ α : Type) where
  entries : List (κ × α)
  nodup : (entries.map Prod.fst).Nodup

namespace JsMap

/-- `new Map()`. -/
def empty : JsMap κ α := ⟨[], List.nodup_nil⟩

/-- `map.get(key)`. -/
def get (m : JsMap κ α) (k : κ) : Option α := getEntry k m.entries

/-- `map.has(key)`. -/
def has (m : JsMap κ α) (k : κ) : Bool := (m.get k).isSome

/-- `map.set(key, value)`. -/
def set (m : JsMap κ α) (k : κ) (a : α) : JsMap κ α :=
  ⟨setEntry k a m.entries, nodup_setEntry m.nodup⟩

/-- `map.keys()`. -/
def keys (m : JsMap κ α) : List κ := m.entries.map Prod.fst

/-- `map.values()`. -/
def values (m : JsMap κ α) : List α := m.entries.map Prod.snd

@[simp] theorem get_empty (k : κ) : (empty : JsMap κ α).get k = none := rfl

theorem get_set (m : JsMap κ α) (k k' : κ) (a : α) :
    (m.set k a).get k' = if k = k' then some a else m.get k' :=
  getEntry_setEntry k k' a m.entries

@[simp] theorem get_set_self (m : JsMap κ α) (k : κ) (a : α) : (m.set k a).get k = some a := by
  rw [get_set, if_pos rfl]

theorem get_set_of_ne {m : JsMap κ α} {k k' : κ} {a : α} (h : k ≠ k') :
    (m.set k a).get k' = m.get k' := by
  rw [get_set, if_neg h]

/-- **An entry is what is stored under its key.** -/
theorem mem_iff_get {m : JsMap κ α} {k : κ} {a : α} : (k, a) ∈ m.entries ↔ m.get k = some a :=
  mem_iff_getEntry m.nodup

theorem mem_keys {m : JsMap κ α} {k : κ} : k ∈ m.keys ↔ ∃ a, m.get k = some a := by
  rw [keys, List.mem_map]
  constructor
  · rintro ⟨⟨k', a⟩, hmem, rfl⟩
    exact ⟨a, mem_iff_get.mp hmem⟩
  · rintro ⟨a, h⟩
    exact ⟨(k, a), mem_iff_get.mpr h, rfl⟩

theorem mem_values {m : JsMap κ α} {a : α} : a ∈ m.values ↔ ∃ k, m.get k = some a := by
  rw [values, List.mem_map]
  constructor
  · rintro ⟨⟨k, a'⟩, hmem, rfl⟩
    exact ⟨k, mem_iff_get.mp hmem⟩
  · rintro ⟨k, h⟩
    exact ⟨(k, a), mem_iff_get.mpr h, rfl⟩

theorem has_eq_true {m : JsMap κ α} {k : κ} : m.has k = true ↔ ∃ a, m.get k = some a :=
  Option.isSome_iff_exists

theorem has_eq_false {m : JsMap κ α} {k : κ} : m.has k = false ↔ m.get k = none := by
  rw [has, Option.isSome_eq_false_iff, Option.isNone_iff_eq_none]

/-- A new key comes last. -/
theorem entries_set_of_not_has {m : JsMap κ α} {k : κ} {a : α} (h : m.has k = false) :
    (m.set k a).entries = m.entries ++ [(k, a)] :=
  setEntry_of_not_mem (getEntry_eq_none.mp (has_eq_false.mp h))

/-- The values replaced one by one. -/
def mapValues {β : Type} (f : α → β) (m : JsMap κ α) : JsMap κ β :=
  ⟨m.entries.map fun e => (e.1, f e.2), by
    rw [List.map_map]
    exact m.nodup⟩

theorem get_mapValues {β : Type} (f : α → β) (m : JsMap κ α) (k : κ) :
    (m.mapValues f).get k = (m.get k).map f :=
  getEntry_map f k m.entries

/-- What is stored under the keys of a list of pairs, each added to what was there. -/
theorem getD_foldl_set {β : Type} (add : β → α → β) (start : β) (ps : List (κ × α)) (m : JsMap κ β)
    (k : κ) :
    ((ps.foldl (fun m p => m.set p.1 (add ((m.get p.1).getD start) p.2)) m).get k).getD start
      = ((ps.filter fun p => p.1 = k).map Prod.snd).foldl add ((m.get k).getD start) := by
  induction ps generalizing m with
  | nil => rfl
  | cons p ps ih =>
    rw [List.foldl_cons, ih, get_set, List.filter_cons]
    by_cases hk : p.1 = k
    · subst hk
      simp
    · simp [hk]

end JsMap

/-! ## 3. Sets -/

/-- A `Set`, in the order in which its members were first added. -/
abbrev JsSet (κ : Type) := JsMap κ Unit

namespace JsSet

/-- `set.add(value)`. -/
def add (s : JsSet κ) (k : κ) : JsSet κ := JsMap.set s k ()

theorem mem_keys_add {s : JsSet κ} {k k' : κ} : k' ∈ (s.add k).keys ↔ k' = k ∨ k' ∈ s.keys :=
  mem_keys_setEntry

theorem mem_keys_foldl_add {ks : List κ} {s : JsSet κ} {k : κ} :
    k ∈ (ks.foldl add s).keys ↔ k ∈ ks ∨ k ∈ s.keys := by
  induction ks generalizing s with
  | nil => simp
  | cons k' ks ih =>
    rw [List.foldl_cons, ih, mem_keys_add, List.mem_cons]
    tauto

end JsSet

/-! ## 4. Keys that must be new -/

section Fresh

variable {β ε : Type} {step : JsMap κ β → α → Except ε (JsMap κ β)} {key : α → κ} {value : α → β}
  {good : α → Prop}

/-- Entries under keys that are new stand after those that are there. -/
theorem entries_foldl_set {as : List α} {m : JsMap κ β} (hfresh : ∀ a ∈ as, m.has (key a) = false)
    (hnodup : (as.map key).Nodup) : (as.foldl (fun m a => m.set (key a) (value a)) m).entries
      = m.entries ++ as.map fun a => (key a, value a) := by
  induction as generalizing m with
  | nil => simp
  | cons a as ih =>
    obtain ⟨ha, hnodup⟩ := List.nodup_cons.mp hnodup
    rw [List.foldl_cons, ih ?_ hnodup, JsMap.entries_set_of_not_has (hfresh a List.mem_cons_self),
      List.append_assoc]
    · rfl
    · intro b hb
      have hne : key a ≠ key b := fun heq => ha (heq ▸ List.mem_map_of_mem hb)
      rw [JsMap.has, JsMap.get_set_of_ne hne]
      exact hfresh b (List.mem_cons_of_mem _ hb)

/-- A loop that refuses what is not good, and a key that is there, sets keys that are all different. -/
theorem foldlM_set_eq_ok (hstep : ∀ m a m', step m a = .ok m' ↔
      good a ∧ m.has (key a) = false ∧ m' = m.set (key a) (value a)) {as : List α} {m m' : JsMap κ β} :
    as.foldlM step m = .ok m' ↔ (∀ a ∈ as, good a ∧ m.has (key a) = false) ∧ (as.map key).Nodup
      ∧ m' = as.foldl (fun m a => m.set (key a) (value a)) m := by
  induction as generalizing m with
  | nil =>
    constructor
    · intro h
      exact ⟨fun _ hmem => absurd hmem List.not_mem_nil, List.nodup_nil, (Except.ok.inj h).symm⟩
    · rintro ⟨-, -, rfl⟩
      rfl
  | cons a as ih =>
    have hbind : (a :: as).foldlM step m = .ok m' ↔ ∃ m₁, step m a = .ok m₁ ∧ as.foldlM step m₁ = .ok m' := by
      rw [List.foldlM_cons]
      cases step m a <;> simp [bind, Except.bind]
    rw [hbind, List.map_cons, List.nodup_cons]
    have hset : ∀ b, (m.set (key a) (value a)).has (key b) = false ↔ key a ≠ key b ∧ m.has (key b) = false := by
      intro b
      rw [JsMap.has, JsMap.has, JsMap.get_set]
      by_cases heq : key a = key b <;> simp [heq]
    constructor
    · rintro ⟨m₁, hone, hrest⟩
      obtain ⟨hgood, hfresh, rfl⟩ := (hstep _ _ _).mp hone
      obtain ⟨hall, hnodup, rfl⟩ := ih.mp hrest
      refine ⟨?_, ⟨?_, hnodup⟩, rfl⟩
      · intro b hb
        rcases List.mem_cons.mp hb with rfl | hb
        · exact ⟨hgood, hfresh⟩
        · exact ⟨(hall b hb).1, ((hset b).mp (hall b hb).2).2⟩
      · intro hmem
        obtain ⟨b, hb, heq⟩ := List.mem_map.mp hmem
        exact ((hset b).mp (hall b hb).2).1 heq.symm
    · rintro ⟨hall, ⟨ha, hnodup⟩, rfl⟩
      obtain ⟨hgood, hfresh⟩ := hall a List.mem_cons_self
      refine ⟨_, (hstep _ _ _).mpr ⟨hgood, hfresh, rfl⟩, ih.mpr ⟨fun b hb => ?_, hnodup, rfl⟩⟩
      obtain ⟨hb', hfresh'⟩ := hall b (List.mem_cons_of_mem _ hb)
      exact ⟨hb', (hset b).mpr ⟨fun heq => ha (heq ▸ List.mem_map_of_mem hb), hfresh'⟩⟩

end Fresh

end Ecma
