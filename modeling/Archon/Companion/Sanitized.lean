/-
# What the companion keeps of a tool result

The companion does not hand on what a tool returns.  It cuts long texts, lists and dicts, replaces what
lies too deep, and leaves out the members of dicts whose key looks like that of a secret (`sanitized`).
Of a tool result it keeps a receipt, with the digests of the arguments and of what was kept.

`sanitized` applied twice is `sanitized`.  A key is cut before it is compared with the pattern, so a key
whose secret part lies behind the cut is kept with its value; except for those, no value under a key of
the pattern has an influence on the receipt (`receipt_insensitive_iff`).
-/
import Archon.Cloud.Agreement
import Archon.Jobs.Gateway

namespace Companion

open Ecma Jobs
open Cloud (codePointLe keyOrder_codePoint)

/-! ## 1. Keys -/

/-- What a code point is compared as by `re.IGNORECASE`, up to the letters outside the pattern. -/
def foldCase (c : Nat) : Nat :=
  if 0x41 ≤ c ∧ c ≤ 0x5A then c + 0x20
  else if c = 0x130 ∨ c = 0x131 then 0x69
  else if c = 0x17F then 0x73
  else if c = 0x212A then 0x6B
  else c

/-- The words of `FORBIDDEN_KEY`. -/
def FORBIDDEN_WORDS : List String :=
  ["authorization", "credential", "password", "secret", "token", "endpoint"]

/-- The points begin with the word. -/
def beginsWith (word : String) (points : List Nat) : Bool :=
  (codePoints (js word)).isPrefixOf (points.map foldCase)

/-- The points begin with a match of `FORBIDDEN_KEY`. -/
def matchesHere (points : List Nat) : Bool :=
  FORBIDDEN_WORDS.any (beginsWith · points)
    || beginsWith "private" points
      && (beginsWith "key" (points.drop 7)
        || points[7]?.any (· ≠ 0x0A) && beginsWith "key" (points.drop 8))

/-- `FORBIDDEN_KEY.search(key)`. -/
def isForbidden (key : Text) : Bool := (codePoints key).tails.any matchesHere

/-! ## 2. `sanitized` -/

section Members

variable {α β : Type}

/-- `result[key] = value`. -/
def setItem (fields : List (Text × α)) (key : Text) (value : α) : List (Text × α) :=
  if fields.any fun f => f.1 = key then fields.map fun f => if f.1 = key then (key, value) else f
  else fields ++ [(key, value)]

/-- One round of the loop of `sanitized`. -/
def keep (result : List (Text × α)) (f : Text × α) : List (Text × α) :=
  let key := takePoints 128 f.1
  if isForbidden key then result else setItem result key f.2

/-- `sorted(value, key=str)[:100]`. -/
def firstKeys (fields : List (Text × α)) : List (Text × α) :=
  (fields.mergeSort fun f g => codePointLe f.1 g.1).take 100

/-- The members of a dict that are kept, under their keys as far as these are. -/
def kept (fields : List (Text × α)) : List (Text × α) := (firstKeys fields).foldl keep []

end Members

/-- `sanitized`, with the number of levels that are left. -/
def sanitizedAt : Nat → Py → Py
  | 0, _ => .lit "[depth-limit]"
  | _ + 1, .none => .none
  | _ + 1, .bool b => .bool b
  | _ + 1, .int n => .int n
  | _ + 1, .float repr isFinite => if isFinite then .float repr isFinite else .lit "[non-finite]"
  | _ + 1, .decimal _ => .lit "[unsupported]"
  | _ + 1, .str t => .str (takePoints 2048 t)
  | n + 1, .list items => .list ((items.take 50).map (sanitizedAt n))
  | n + 1, .dict fields => .dict ((kept fields).map fun f => (f.1, sanitizedAt n f.2))

/-- `sanitized`: depths 0 to 8 are looked into. -/
def sanitized (v : Py) : Py := sanitizedAt 9 v

/-- `tool_receipt`, where every digest can be computed. -/
def toolReceipt (P : Remediation.Platform) (name : Text) (arguments result : Py) (status : String) :
    Option Py := do
  let safe := sanitized result
  let argumentsDigest ← digest P arguments
  let resultDigest ← digest P safe
  let receipt := [("tool", .str name), ("provider", .lit "datahub-agent-context"),
    ("status", .lit status), ("argumentsDigest", .str argumentsDigest),
    ("resultDigest", .str resultDigest), ("result", safe)]
  let own ← digest P (.object receipt)
  return .object (receipt ++ [("digest", .str own)])

/-! ## 3. What is kept of the keys -/

theorem codePoints_takePoints : ∀ (n : Nat) (t : Text),
    codePoints (takePoints n t) = (codePoints t).take n
  | 0, t => by rw [takePoints, List.take_zero, codePoints]
  | n + 1, [] => rfl
  | n + 1, [u] => by
    have hrest : takePoints n [] = [] := by cases n <;> rfl
    rw [takePoints, hrest, codePoints, List.take_succ_cons, List.take_nil]
  | n + 1, u :: v :: t => by
    rw [takePoints]
    by_cases hpair : (isHigh u && isLow v) = true
    · rw [if_pos hpair, codePoints, codePoints, if_pos hpair, if_pos hpair, List.take_succ_cons,
        codePoints_takePoints n t]
    · rw [if_neg hpair, codePoints.eq_1 u v t, if_neg hpair, List.take_succ_cons,
        ← codePoints_takePoints n (v :: t)]
      -- What follows the first unit begins with the second, or is empty.
      cases n with
      | zero => rfl
      | succ n =>
        obtain ⟨rest, hrest⟩ : ∃ rest, takePoints (n + 1) (v :: t) = v :: rest := by
          cases t with
          | nil => exact ⟨_, rfl⟩
          | cons w t =>
            rw [takePoints]
            split
            · exact ⟨_, rfl⟩
            · exact ⟨_, rfl⟩
        rw [hrest, codePoints, if_neg hpair]

theorem codePoints_inj {s t : Text} (h : codePoints s = codePoints t) : s = t := by
  rw [← Cloud.flatMap_unitsOf s, h, Cloud.flatMap_unitsOf]

@[simp] theorem takePoints_takePoints (n : Nat) (t : Text) :
    takePoints n (takePoints n t) = takePoints n t := by
  apply codePoints_inj
  rw [codePoints_takePoints, codePoints_takePoints, List.take_take, Nat.min_self]

/-- Lists in order are in order as far as they are kept. -/
theorem take_le_take {l m : List Nat} (h : l ≤ m) (n : Nat) : l.take n ≤ m.take n := by
  induction n generalizing l m with
  | zero => simp
  | succ n ih =>
    cases l with
    | nil => exact not_lt.mp (List.not_lt_nil _)
    | cons a l =>
      cases m with
      | nil => exact absurd h (not_le.mpr (List.nil_lt_cons a l))
      | cons b m =>
        rw [List.take_succ_cons, List.take_succ_cons, Control.cons_le_cons_iff]
        rcases (Control.cons_le_cons_iff ..).mp h with hlt | ⟨heq, hle⟩
        · exact Or.inl hlt
        · exact Or.inr ⟨heq, ih hle⟩

theorem codePointLe_takePoints {s t : Text} (h : codePointLe s t = true) (n : Nat) :
    codePointLe (takePoints n s) (takePoints n t) = true := by
  rw [codePointLe, decide_eq_true_eq] at *
  rw [codePoints_takePoints, codePoints_takePoints]
  exact take_le_take h n

section Kept

variable {α β : Type} {fields : List (Text × α)}

/-- A key before another. -/
def Precedes (s t : Text) : Prop := codePointLe s t = true ∧ s ≠ t

/-- The members are ones that are kept as they are. -/
structure Tidy (fields : List (Text × α)) : Prop where
  keys : ∀ k ∈ fields.map Prod.fst, takePoints 128 k = k ∧ isForbidden k = false
  ordered : (fields.map Prod.fst).Pairwise Precedes

theorem keys_setItem (fields : List (Text × α)) (key : Text) (v : α) :
    (setItem fields key v).map Prod.fst
      = if key ∈ fields.map Prod.fst then fields.map Prod.fst else fields.map Prod.fst ++ [key] := by
  have hany : (fields.any fun f => f.1 = key) = true ↔ key ∈ fields.map Prod.fst := by
    rw [List.any_eq_true, List.mem_map]
    simp
  rw [setItem]
  by_cases hmem : key ∈ fields.map Prod.fst
  · rw [if_pos (hany.mpr hmem), if_pos hmem, List.map_map]
    refine List.map_congr_left fun f _ => ?_
    by_cases hf : f.1 = key
    · simp [hf]
    · simp [hf]
  · rw [if_neg fun h => hmem (hany.mp h), if_neg hmem, List.map_append]
    rfl

/-- A member that comes last can be set. -/
theorem Tidy.setItem (h : Tidy fields) {key : Text} {v : α} (hkey : takePoints 128 key = key)
    (hallowed : isForbidden key = false) (hlast : ∀ k ∈ fields.map Prod.fst, codePointLe k key = true) :
    Tidy (setItem fields key v) := by
  by_cases hmem : key ∈ fields.map Prod.fst
  · have hkeys := keys_setItem fields key v
    rw [if_pos hmem] at hkeys
    exact ⟨hkeys ▸ h.keys, hkeys ▸ h.ordered⟩
  · have hkeys := keys_setItem fields key v
    rw [if_neg hmem] at hkeys
    constructor
    · rw [hkeys]
      intro k hk
      rcases List.mem_append.mp hk with hk | hk
      · exact h.keys k hk
      · obtain rfl := List.mem_singleton.mp hk
        exact ⟨hkey, hallowed⟩
    · rw [hkeys, List.pairwise_append]
      refine ⟨h.ordered, List.pairwise_singleton _ _, fun k hk k' hk' => ?_⟩
      obtain rfl := List.mem_singleton.mp hk'
      exact ⟨hlast k hk, fun heq => hmem (heq ▸ hk)⟩

/-- One round: the result stays tidy and grows by one member at most. -/
theorem keep_step {result : List (Text × α)} (h : Tidy result) {f : Text × α}
    (hlast : ∀ k ∈ result.map Prod.fst, codePointLe k (takePoints 128 f.1) = true) :
    Tidy (keep result f) ∧ (keep result f).length ≤ result.length + 1
      ∧ ∀ k ∈ (keep result f).map Prod.fst, k ∈ result.map Prod.fst ∨ k = takePoints 128 f.1 := by
  rw [keep]
  split
  · exact ⟨h, Nat.le_succ _, fun k hk => Or.inl hk⟩
  case isFalse hallowed =>
    have hallowed : isForbidden (takePoints 128 f.1) = false := by simpa using hallowed
    have hkeys := keys_setItem result (takePoints 128 f.1) f.2
    refine ⟨h.setItem (takePoints_takePoints _ _) hallowed hlast, ?_, ?_⟩
    · have hlength : result.length = (result.map Prod.fst).length := (List.length_map Prod.fst).symm
      rw [← List.length_map (f := Prod.fst), hkeys, hlength]
      split
      · exact Nat.le_succ _
      · rw [List.length_append, List.length_singleton]
    · rw [hkeys]
      intro k hk
      split at hk
      · exact Or.inl hk
      · exact (List.mem_append.mp hk).imp id List.mem_singleton.mp

/-- All rounds, over members whose keys are in order. -/
theorem foldl_keep {l result : List (Text × α)} (hl : l.Pairwise fun f g => codePointLe f.1 g.1 = true)
    (h : Tidy result)
    (hlast : ∀ k ∈ result.map Prod.fst, ∀ f ∈ l, codePointLe k (takePoints 128 f.1) = true) :
    Tidy (l.foldl keep result) ∧ (l.foldl keep result).length ≤ result.length + l.length := by
  induction l generalizing result with
  | nil => exact ⟨h, le_rfl⟩
  | cons f l ih =>
    obtain ⟨hf, hl⟩ := List.pairwise_cons.mp hl
    obtain ⟨hstep, hlength, hkeys⟩ := keep_step h fun k hk => hlast k hk f List.mem_cons_self
    obtain ⟨htidy, hle⟩ := ih hl hstep fun k hk g hg => by
      rcases hkeys k hk with hk | rfl
      · exact hlast k hk g (List.mem_cons_of_mem _ hg)
      · exact codePointLe_takePoints (hf g hg) 128
    refine ⟨htidy, ?_⟩
    rw [List.foldl_cons, List.length_cons]
    omega

theorem firstKeys_ordered (fields : List (Text × α)) :
    (firstKeys fields).Pairwise fun f g => codePointLe f.1 g.1 = true := by
  have horder := keyOrder_codePoint
  exact (List.pairwise_mergeSort (fun a b c => horder.trans a.1 b.1 c.1)
    (fun a b => horder.total a.1 b.1) fields).sublist (List.take_sublist _ _)

/-- **What is kept is tidy, and no more than a hundred members.** -/
theorem kept_tidy (fields : List (Text × α)) : Tidy (kept fields) ∧ (kept fields).length ≤ 100 := by
  obtain ⟨htidy, hlength⟩ := foldl_keep (firstKeys_ordered fields)
    (⟨fun _ hk => absurd hk List.not_mem_nil, .nil⟩ : Tidy ([] : List (Text × α)))
    fun _ hk => absurd hk List.not_mem_nil
  refine ⟨htidy, hlength.trans ?_⟩
  rw [List.length_nil, Nat.zero_add, firstKeys]
  exact List.length_take_le _ _

/-- Tidy members are added one by one. -/
theorem foldl_keep_tidy {l result : List (Text × α)} (h : Tidy (result ++ l)) :
    l.foldl keep result = result ++ l := by
  induction l generalizing result with
  | nil => rw [List.foldl_nil, List.append_nil]
  | cons f l ih =>
    have hf : f.1 ∈ (result ++ f :: l).map Prod.fst := by simp
    have hordered := h.ordered
    rw [List.map_append, List.pairwise_append] at hordered
    have hfresh : f.1 ∉ result.map Prod.fst := fun hmem =>
      (hordered.2.2 f.1 hmem f.1 (by simp)).2 rfl
    have hany : ¬ (result.any fun g => g.1 = f.1) = true := by
      rw [List.any_eq_true]
      rintro ⟨g, hg, heq⟩
      exact hfresh (List.mem_map.mpr ⟨g, hg, of_decide_eq_true heq⟩)
    have hkeep : keep result f = result ++ [f] := by
      rw [keep, (h.keys f.1 hf).1, (h.keys f.1 hf).2, if_neg Bool.false_ne_true, setItem, if_neg hany]
    rw [List.foldl_cons, hkeep, ih (by simpa using h), List.append_assoc]
    rfl

/-- Tidy members are kept as they are. -/
theorem kept_of_tidy (h : Tidy fields) (hlength : fields.length ≤ 100) : kept fields = fields := by
  have hsorted : fields.Pairwise fun f g => codePointLe f.1 g.1 = true :=
    (List.pairwise_map.mp h.ordered).imp fun hprecedes => hprecedes.1
  rw [kept, firstKeys, List.mergeSort_of_pairwise hsorted, List.take_of_length_le hlength,
    foldl_keep_tidy (by simpa using h), List.nil_append]

/-- What is kept does not depend on the values. -/
theorem kept_map (g : α → β) (fields : List (Text × α)) :
    kept (fields.map (Prod.map id g)) = (kept fields).map (Prod.map id g) := by
  have hset : ∀ (result : List (Text × α)) key v, setItem (result.map (Prod.map id g)) key (g v)
      = (setItem result key v).map (Prod.map id g) := by
    intro result key v
    rw [setItem, setItem, List.any_map]
    simp only [Function.comp_def, Prod.map_fst, id_eq]
    split
    · rw [List.map_map, List.map_map]
      refine List.map_congr_left fun f _ => ?_
      simp only [Function.comp_apply, Prod.map_fst, id_eq]
      split <;> rfl
    · rw [List.map_append]
      rfl
  have hfirst : firstKeys (fields.map (Prod.map id g)) = (firstKeys fields).map (Prod.map id g) := by
    rw [firstKeys, firstKeys, List.map_take]
    exact congrArg (List.take 100) (List.map_mergeSort (f := Prod.map id g)
      (r := fun f g => codePointLe f.1 g.1) (s := fun f g => codePointLe f.1 g.1)
      fun _ _ _ _ => rfl).symm
  have hkeep : ∀ (result : List (Text × α)) f, keep (result.map (Prod.map id g)) (Prod.map id g f)
      = (keep result f).map (Prod.map id g) := by
    intro result f
    rw [keep, keep]
    dsimp only [Prod.map_fst, id_eq, Prod.map_snd]
    split
    · rfl
    · exact hset _ _ _
  rw [kept, kept, hfirst, List.foldl_map]
  change List.foldl _ (List.map (Prod.map id g) []) _ = _
  exact List.foldl_hom (List.map (Prod.map id g)) hkeep

end Kept

/-! ## 4. Twice -/

theorem sanitizedAt_dict (n : Nat) (fields : List (Text × Py)) :
    sanitizedAt (n + 1) (.dict fields) = .dict ((kept fields).map (Prod.map id (sanitizedAt n))) := rfl

/-- **What is kept of what was kept is the same.** -/
theorem sanitizedAt_sanitizedAt (n : Nat) (v : Py) :
    sanitizedAt n (sanitizedAt n v) = sanitizedAt n v := by
  induction n generalizing v with
  | zero => rfl
  | succ n ih =>
    cases v with
    | none | bool | int | decimal => rfl
    | float repr isFinite =>
      cases isFinite
      · rfl
      · rfl
    | str t => rw [sanitizedAt, sanitizedAt, takePoints_takePoints]
    | list items =>
      rw [sanitizedAt, sanitizedAt, List.map_take, List.map_take, List.map_take, List.take_take,
        Nat.min_self, List.map_map]
      exact congrArg (fun vs => Py.list (vs.take 50)) (List.map_congr_left fun w _ => ih w)
    | dict fields =>
      obtain ⟨htidy, hlength⟩ := kept_tidy fields
      rw [sanitizedAt_dict, sanitizedAt_dict, kept_map, kept_of_tidy htidy hlength, List.map_map]
      refine congrArg Py.dict (List.map_congr_left fun f _ => ?_)
      exact congrArg (Prod.mk f.1) (ih f.2)

theorem sanitized_sanitized (v : Py) : sanitized (sanitized v) = sanitized v :=
  sanitizedAt_sanitizedAt 9 v

/-! ## 5. Forbidden keys -/

mutual

/-- The value without what is stored under forbidden keys. -/
def masked : Py → Py
  | .list items => .list (maskedItems items)
  | .dict fields => .dict (maskedFields fields)
  | v => v

/-- The elements of a list. -/
def maskedItems : List Py → List Py
  | [] => []
  | v :: vs => masked v :: maskedItems vs

/-- The members of a dict. -/
def maskedFields : List (Text × Py) → List (Text × Py)
  | [] => []
  | (key, v) :: fs => (key, if isForbidden key then .none else masked v) :: maskedFields fs

end

theorem maskedItems_eq (items : List Py) : maskedItems items = items.map masked := by
  induction items with
  | nil => rfl
  | cons v vs ih => rw [maskedItems, ih, List.map_cons]

/-- What is left of a member. -/
def maskedMember (f : Text × Py) : Py := if isForbidden f.1 then .none else masked f.2

theorem maskedFields_eq (fields : List (Text × Py)) :
    maskedFields fields = fields.map fun f => (f.1, maskedMember f) := by
  induction fields with
  | nil => rfl
  | cons f fs ih =>
    rw [maskedFields, ih, List.map_cons]
    rfl

/-- The members that are kept, each under its key as far as it is kept, with the whole key. -/
def survivors (fields : List (Text × Py)) : List (Text × Text × Py) :=
  kept (fields.map fun f => (f.1, f))

theorem kept_eq_survivors {β : Type} (fields : List (Text × Py)) (g : Text × Py → β) :
    kept (fields.map fun f => (f.1, g f)) = (survivors fields).map (Prod.map id g) := by
  rw [survivors, ← kept_map, List.map_map]
  rfl

theorem kept_eq (fields : List (Text × Py)) :
    kept fields = (survivors fields).map (Prod.map id Prod.snd) := by
  simpa using kept_eq_survivors fields Prod.snd

/-- Something is kept that is stored under a forbidden key: the part of the key that makes it forbidden
lies behind the cut. -/
def leaksAt : Nat → Py → Bool
  | n + 1, .list items => (items.take 50).any (leaksAt n)
  | n + 1, .dict fields => (survivors fields).any fun f =>
      if isForbidden f.2.1 then n != 0 else leaksAt n f.2.2
  | _, _ => false

/-- The same, of a result. -/
def leaks (v : Py) : Bool := leaksAt 9 v

/-- The members of a dict that was masked. -/
theorem survivors_masked (fields : List (Text × Py)) : survivors (maskedFields fields)
    = (survivors fields).map (Prod.map id fun f => (f.1, maskedMember f)) := by
  rw [survivors, maskedFields_eq, List.map_map]
  exact kept_eq_survivors fields fun f => (f.1, maskedMember f)

theorem leaksAt_masked (n : Nat) (v : Py) : leaksAt n (masked v) = leaksAt n v := by
  induction n generalizing v with
  | zero => cases v <;> rfl
  | succ n ih =>
    cases v with
    | list items =>
      rw [masked, maskedItems_eq, leaksAt, leaksAt, ← List.map_take, List.any_map]
      exact congrArg (List.any (items.take 50)) (funext ih)
    | dict fields =>
      rw [masked, leaksAt, leaksAt, survivors_masked, List.any_map]
      refine congrArg (List.any (survivors fields)) (funext fun f => ?_)
      dsimp only [Function.comp_apply, Prod.map_snd, maskedMember]
      split
      · rfl
      · exact ih f.2.2
    | _ => rfl

/-- **Where nothing leaks, what is kept is what is kept of the masked value.** -/
theorem sanitizedAt_masked (n : Nat) (v : Py) (h : leaksAt n v = false) :
    sanitizedAt n (masked v) = sanitizedAt n v := by
  induction n generalizing v with
  | zero => rfl
  | succ n ih =>
    cases v with
    | list items =>
      rw [leaksAt, List.any_eq_false] at h
      rw [masked, maskedItems_eq, sanitizedAt, sanitizedAt, ← List.map_take, List.map_map]
      refine congrArg Py.list (List.map_congr_left fun w hw => ih w ?_)
      simpa using h w hw
    | dict fields =>
      rw [leaksAt, List.any_eq_false] at h
      rw [masked, maskedFields_eq, sanitizedAt_dict, sanitizedAt_dict, kept_eq_survivors, kept_eq fields,
        List.map_map, List.map_map]
      refine congrArg Py.dict (List.map_congr_left fun f hf => ?_)
      have hleak := h f hf
      refine congrArg (Prod.mk f.1) ?_
      rw [maskedMember]
      split
      case isTrue hforbidden =>
        rw [if_pos hforbidden] at hleak
        -- At the last level no value is looked at.
        obtain rfl : n = 0 := by simpa using hleak
        rfl
      case isFalse hallowed =>
        rw [if_neg hallowed] at hleak
        exact ih f.2.2 (by simpa using hleak)
    | _ => rfl

section Leaks

open Classical

/-- Every value is kept as one of two things at most. -/
theorem exists_kept_ne (n : Nat) (v : Py) : ∃ w, sanitizedAt (n + 1) w ≠ sanitizedAt (n + 1) v := by
  by_cases h : sanitizedAt (n + 1) v = .none
  · refine ⟨.bool true, fun heq => ?_⟩
    rw [h] at heq
    cases heq
  · exact ⟨.none, fun heq => h heq.symm⟩

/-- **Where something leaks, it can be told apart** from a value that is the same up to what is stored
under forbidden keys. -/
theorem exists_leak (n : Nat) (v : Py) (h : leaksAt n v = true) :
    ∃ w, masked w = masked v ∧ sanitizedAt n w ≠ sanitizedAt n v := by
  induction n generalizing v with
  | zero => cases v <;> cases h
  | succ n ih =>
    cases v with
    | list items =>
      rw [leaksAt, List.any_eq_true] at h
      obtain ⟨item, hitem, hleak⟩ := h
      obtain ⟨w, hmasked, hne⟩ := ih item hleak
      refine ⟨.list (items.map fun x => if x = item then w else x), ?_, fun heq => hne ?_⟩
      · rw [masked, masked, maskedItems_eq, maskedItems_eq, List.map_map]
        refine congrArg Py.list (List.map_congr_left fun x _ => ?_)
        rw [Function.comp_apply]
        split
        case isTrue hx => rw [hmasked, hx]
        case isFalse => rfl
      · rw [sanitizedAt, sanitizedAt, ← List.map_take, List.map_map] at heq
        have hsame := List.map_inj_left.mp (Py.list.inj heq) item hitem
        rwa [Function.comp_apply, if_pos rfl] at hsame
    | dict fields =>
      rw [leaksAt, List.any_eq_true] at h
      obtain ⟨f, hf, hleak⟩ := h
      obtain ⟨w, hmasked, hne⟩ : ∃ w, maskedMember (f.2.1, w) = maskedMember f.2
          ∧ sanitizedAt n w ≠ sanitizedAt n f.2.2 := by
        split at hleak
        case isTrue hforbidden =>
          obtain ⟨m, rfl⟩ := Nat.exists_eq_succ_of_ne_zero (by simpa using hleak)
          obtain ⟨w, hne⟩ := exists_kept_ne m f.2.2
          refine ⟨w, ?_, hne⟩
          rw [maskedMember, maskedMember, if_pos hforbidden, if_pos hforbidden]
        case isFalse hallowed =>
          obtain ⟨w, hmasked, hne⟩ := ih f.2.2 hleak
          refine ⟨w, ?_, hne⟩
          rw [maskedMember, maskedMember, if_neg hallowed, if_neg hallowed, hmasked]
      refine ⟨.dict (fields.map fun m => (m.1, if m = f.2 then w else m.2)), ?_, fun heq => hne ?_⟩
      · rw [masked, masked, maskedFields_eq, maskedFields_eq, List.map_map]
        refine congrArg Py.dict (List.map_congr_left fun m _ => ?_)
        refine congrArg (Prod.mk m.1) ?_
        dsimp only
        split
        case isTrue hm => rw [hm, hmasked]
        case isFalse => rfl
      · rw [sanitizedAt_dict, sanitizedAt_dict, kept_eq fields, kept_eq_survivors, List.map_map,
          List.map_map] at heq
        have hsame := List.map_inj_left.mp (Py.dict.inj heq) f hf
        have hvalue := congrArg Prod.snd hsame
        dsimp only [Function.comp_apply, Prod.map_snd] at hvalue
        rwa [if_pos rfl] at hvalue
    | _ => cases h

end Leaks

/-! ## 6. Receipts -/

variable {P : Remediation.Platform} {name : Text} {arguments v w : Py} {status : String}

/-- What was kept can be read off the receipt. -/
theorem result_of_toolReceipt {r : Py} (h : toolReceipt P name arguments v status = some r) :
    r.get "result" = sanitized v := by
  simp only [toolReceipt, bind, Option.bind_eq_some_iff] at h
  obtain ⟨d, -, d', -, d'', -, hr⟩ := h
  obtain rfl := Option.some.inj hr
  simp [List.lookup]

/-- The receipt does not depend on what is stored under forbidden keys. -/
def Insensitive (P : Remediation.Platform) (name : Text) (arguments : Py) (status : String) (v : Py) :
    Prop :=
  ∀ w, masked w = masked v →
    toolReceipt P name arguments w status = toolReceipt P name arguments v status

theorem insensitive_of_not_leaks (h : leaks v = false) : Insensitive P name arguments status v := by
  intro w hw
  have hleaks : leaks w = false := by
    rw [leaks, ← leaksAt_masked, hw, leaksAt_masked]
    exact h
  have hkept : sanitized w = sanitized v := by
    rw [sanitized, ← sanitizedAt_masked 9 w hleaks, hw]
    exact sanitizedAt_masked 9 v h
  rw [toolReceipt, toolReceipt, hkept]

theorem not_leaks_of_insensitive (hreceipt : (toolReceipt P name arguments v status).isSome = true)
    (h : Insensitive P name arguments status v) : leaks v = false := by
  rw [← Bool.not_eq_true]
  intro hleaks
  obtain ⟨w, hmasked, hne⟩ := exists_leak 9 v hleaks
  obtain ⟨r, hr⟩ := Option.isSome_iff_exists.mp hreceipt
  have hw := h w hmasked
  rw [hr] at hw
  exact hne ((result_of_toolReceipt hw).symm.trans (result_of_toolReceipt hr))

/-- **The receipt does not depend on what is stored under forbidden keys if and only if nothing
leaks**; and what is kept of what was kept is the same. -/
theorem receipt_insensitive_iff (P : Remediation.Platform) (name : Text) (arguments v : Py)
    (status : String) : (leaks v = false → Insensitive P name arguments status v)
      ∧ ((toolReceipt P name arguments v status).isSome = true →
        Insensitive P name arguments status v → leaks v = false)
      ∧ sanitized (sanitized v) = sanitized v :=
  ⟨insensitive_of_not_leaks, not_leaks_of_insensitive, sanitized_sanitized v⟩

/-- The digest of what can be encoded. -/
theorem digest_eq_some {v : Py} (h : (dumps v).isSome = true) :
    ∃ d, digest P v = some d ∧ encodable d = true := by
  obtain ⟨t, ht⟩ := Option.isSome_iff_exists.mp h
  refine ⟨_, by rw [digest, ht]; rfl, encodable_of_isDigest (Control.isDigest_sha256 P t)⟩

/-- There is a receipt where everything can be encoded. -/
theorem toolReceipt_isSome (hname : encodable name = true) (harguments : (dumps arguments).isSome = true)
    (hkept : (dumps (sanitized v)).isSome = true) :
    (toolReceipt P name arguments v status).isSome = true := by
  obtain ⟨d, hd, hencodable⟩ := digest_eq_some (P := P) harguments
  obtain ⟨d', hd', hencodable'⟩ := digest_eq_some (P := P) hkept
  have hreceipt : (dumps (.object [("tool", .str name), ("provider", .lit "datahub-agent-context"),
      ("status", .lit status), ("argumentsDigest", .str d), ("resultDigest", .str d'),
      ("result", sanitized v)])).isSome = true := by
    simp [Py.lit, hname, hencodable, hencodable', hkept]
  obtain ⟨own, hown, -⟩ := digest_eq_some (P := P) hreceipt
  simp [toolReceipt, hd, hd', hown]

/-- A key that is forbidden behind the cut. -/
def longKey : Text := List.replicate 128 0x78 ++ js "token"

/-- The key as far as it is kept. -/
def cutKey : Text := List.replicate 128 0x78

/-- A result with a text under the key. -/
def leaking (t : Text) : Py := .dict [(longKey, .str t)]

theorem kept_longKey (v : Py) : kept [(longKey, v)] = [(cutKey, v)] := by
  have hcut : takePoints 128 longKey = cutKey := by decide
  have hallowed : isForbidden cutKey = false := by decide +kernel
  have hfirst : firstKeys [(longKey, v)] = [(longKey, v)] := by
    rw [firstKeys, List.mergeSort_singleton]
    rfl
  rw [kept, hfirst, List.foldl_cons, List.foldl_nil, keep, hcut, hallowed]
  rfl

theorem sanitized_leaking (t : Text) :
    sanitized (leaking t) = .dict [(cutKey, .str (takePoints 2048 t))] := by
  rw [sanitized, leaking, sanitizedAt_dict, kept_longKey]
  rfl

/-- **Two results that differ under a forbidden key only have different receipts.** -/
theorem receipt_leaks : masked (leaking (js "a")) = masked (leaking (js "b"))
    ∧ ∃ r s, toolReceipt Remediation.Platform.node (js "search") (.object []) (leaking (js "a"))
        "verified" = some r
      ∧ toolReceipt Remediation.Platform.node (js "search") (.object []) (leaking (js "b"))
        "verified" = some s ∧ r ≠ s := by
  have hforbidden : isForbidden longKey = true := by decide +kernel
  have hkey : encodable cutKey = true := by decide
  have hsome : ∀ t, encodable (takePoints 2048 t) = true →
      (toolReceipt Remediation.Platform.node (js "search") (.object []) (leaking t) "verified").isSome
        = true := by
    intro t ht
    refine toolReceipt_isSome (encodable_js _) (by simp) ?_
    rw [sanitized_leaking, dumps, Option.isSome_map, dumpsFields_isSome]
    simp [hkey, ht]
  obtain ⟨r, hr⟩ := Option.isSome_iff_exists.mp (hsome (js "a") (by decide))
  obtain ⟨s, hs⟩ := Option.isSome_iff_exists.mp (hsome (js "b") (by decide))
  refine ⟨?_, r, s, hr, hs, fun heq => ?_⟩
  · simp only [leaking, masked, maskedFields, if_pos hforbidden]
  · have hkept := (result_of_toolReceipt hr).symm.trans
      ((congrArg (Py.get · "result") heq).trans (result_of_toolReceipt hs))
    rw [sanitized_leaking, sanitized_leaking] at hkept
    have htexts := Py.str.inj (Prod.mk.inj (List.cons.inj (Py.dict.inj hkept)).1).2
    exact absurd htexts (by decide)

end Companion
