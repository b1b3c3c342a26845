/-
# Canonical texts and digests

`normalize` rebuilds a value with its keys in code unit order and `canonicalize` prints what it
built; `digest` hashes that text.  Every binding of the remediation protocol is an equality of
two such digests, so the question is which values have the same canonical text.

`norm` is the value `normalize` builds when it does not throw (`normalize_eq_ok`), and two values
have the same canonical text exactly when their `norm` is the same (`canonicalText_inj`).  The
rebuilding is by ASSIGNMENT, `normalized[key] = …`, and the assignment to `__proto__` is not the
creation of a property: it sets the prototype and leaves no own property behind.  So `norm` loses
the members of that name, at every depth, and nothing else (`norm_eq_iff_same`).
-/
import Archon.Remediation.Platform

namespace Remediation

open Ecma Ecma.Value

/-! ## 1. normalize -/

/-- The key whose assignment sets the prototype. -/
def protoKey : Text := js "__proto__"

/-- `normalized[key] = v`, on a plain object. -/
def assign (key : Text) (v : Value) (acc : List (Text × Value)) : List (Text × Value) :=
  if key = protoKey then acc else insertOwn key v acc

/-- The loop over the sorted keys: the first value that cannot be normalized ends it. -/
def assignEach : List (Text × Run Value) → List (Text × Value) → Run (List (Text × Value))
  | [], acc => .ok acc
  | (key, r) :: rest, acc => do
    let v ← r
    assignEach rest (assign key v acc)

mutual

/-- `normalize`.  The branches for what is no JSON value and no `undefined` have no counterpart,
and a tree has no cycles. -/
def normalize : Value → Run Value
  | .undefined => .error (.user (.canonicalization "Unsupported JSON value: undefined."))
  | .num x =>
    if x.isFinite then .ok (.num x.normZero)
    else .error (.user (.canonicalization "Only finite JSON numbers can be canonicalized."))
  | .arr items => do return .arr (← normalizeItems items)
  | .obj fields => do return .obj (← assignEach (sortKeys (outcomes fields)) [])
  | v => .ok v

/-- `value.map((item) => normalize(item, ancestors))`. -/
def normalizeItems : List Value → Run (List Value)
  | [] => .ok []
  | v :: vs => do
    let w ← normalize v
    return w :: (← normalizeItems vs)

/-- What normalizing each member comes to. -/
def outcomes : List (Text × Value) → List (Text × Run Value)
  | [] => []
  | (key, v) :: fs => (key, normalize v) :: outcomes fs

end

/-- `canonicalize`. -/
def canonicalize (v : Value) : Run Text := do
  let n ← normalize v
  return (stringify n).getD (js "undefined")

/-- The prefix of a digest. -/
def digestPrefix : Text := js "sha256:"

/-- `digest`. -/
def digest (P : Platform) (v : Value) : Run Text := do
  let t ← canonicalize v
  return digestPrefix ++ P.sha256 t

/-- `/^sha256:[a-f0-9]{64}$/u`. -/
def isDigestText (t : Text) : Bool :=
  digestPrefix.isPrefixOf t && decide (t.length = 71) && (t.drop 7).all isHexDigit

/-- `verifyDigest`. -/
def verifyDigest (P : Platform) (v expected : Value) : Run Bool := do
  let t ← expected.toText
  if isDigestText t then return (Value.str (← digest P v)).strictEq expected else return false

/-- `withoutDigest`. -/
def withoutDigest (v : Value) : Run Value := v.without ["digest"]

/-! ## 2. What normalize builds -/

/-- The assignments, in order. -/
def assignAll (fs acc : List (Text × Value)) : List (Text × Value) :=
  fs.foldl (fun acc f => assign f.1 f.2 acc) acc

mutual

/-- The value `normalize` builds, where it builds one. -/
def norm : Value → Value
  | .num x => .num x.normZero
  | .arr items => .arr (normItems items)
  | .obj fields => .obj (assignAll (sortKeys (normFields fields)) [])
  | v => v

/-- `norm` for the elements of an array. -/
def normItems : List Value → List Value
  | [] => []
  | v :: vs => norm v :: normItems vs

/-- `norm` for the members of an object. -/
def normFields : List (Text × Value) → List (Text × Value)
  | [] => []
  | (key, v) :: fs => (key, norm v) :: normFields fs

end

theorem normItems_eq (items : List Value) : normItems items = items.map norm := by
  induction items with
  | nil => rfl
  | cons v vs ih => rw [normItems, ih, List.map_cons]

theorem normFields_eq (fs : List (Text × Value)) :
    normFields fs = fs.map fun f => (f.1, norm f.2) := by
  induction fs with
  | nil => rfl
  | cons f fs ih => rw [normFields, ih, List.map_cons]

theorem outcomes_eq (fs : List (Text × Value)) :
    outcomes fs = fs.map fun f => (f.1, normalize f.2) := by
  induction fs with
  | nil => rfl
  | cons f fs ih => rw [outcomes, ih, List.map_cons]

@[simp] theorem norm_str (s : Text) : norm (.str s) = .str s := rfl

theorem norm_arr (items : List Value) : norm (.arr items) = .arr (items.map norm) := by
  rw [norm, normItems_eq]

theorem norm_obj (fs : List (Text × Value)) :
    norm (.obj fs) = .obj (assignAll ((sortKeys fs).map fun f => (f.1, norm f.2)) []) := by
  rw [norm, normFields_eq, sortKeys_map]

/-- One node of a value that has a canonical text. -/
def CanonicalNode : Value → Prop
  | .undefined => False
  | .num x => x.isFinite = true
  | _ => True

instance : DecidablePred CanonicalNode
  | .undefined => inferInstanceAs (Decidable False)
  | .num x => inferInstanceAs (Decidable (x.isFinite = true))
  | .null | .bool _ | .str _ | .arr _ | .obj _ => inferInstanceAs (Decidable True)

/-- The values that have a canonical text: nothing in them is `undefined`, and every number is
finite. -/
def Canonicalizable (v : Value) : Prop := Everywhere CanonicalNode v

instance : DecidablePred Canonicalizable := fun v =>
  inferInstanceAs (Decidable (Everywhere CanonicalNode v))

theorem Canonicalizable.item {items : List Value} (h : Canonicalizable (.arr items)) {v : Value}
    (hv : v ∈ items) : Canonicalizable v :=
  (everywhere_arr.mp h).2 v hv

theorem Canonicalizable.field {fields : List (Text × Value)} (h : Canonicalizable (.obj fields))
    {f : Text × Value} (hf : f ∈ fields) : Canonicalizable f.2 :=
  (everywhere_obj.mp h).2 f hf

@[simp] theorem canonicalizable_object {fields : List (String × Value)} :
    Canonicalizable (object fields) ↔ ∀ f ∈ fields, Canonicalizable f.2 := by
  rw [Canonicalizable, object, everywhere_obj, List.forall_mem_map]
  exact and_iff_right trivial

@[simp] theorem canonicalizable_str (s : Text) : Canonicalizable (.str s) := trivial

@[simp] theorem canonicalizable_lit (s : String) : Canonicalizable (lit s) := trivial

@[simp] theorem canonicalizable_bool (b : Bool) : Canonicalizable (.bool b) := trivial

theorem canonicalizable_ofNat {n : Nat} (h : n < 2 ^ 53) : Canonicalizable (.num (.ofNat n)) :=
  Number.isFinite_ofNat h

@[simp] theorem canonicalizable_arr {items : List Value} :
    Canonicalizable (.arr items) ↔ ∀ v ∈ items, Canonicalizable v :=
  everywhere_arr.trans (and_iff_right trivial)

theorem normalizeItems_ok : ∀ {items : List Value}, (∀ v ∈ items, normalize v = .ok (norm v)) →
    normalizeItems items = .ok (items.map norm)
  | [], _ => rfl
  | v :: vs, h => by
    rw [normalizeItems, h v (by simp), normalizeItems_ok fun w hw => h w (by simp [hw])]
    rfl

theorem assignEach_ok : ∀ {fs acc : List (Text × Value)},
    (∀ f ∈ fs, normalize f.2 = .ok (norm f.2)) →
    assignEach (fs.map fun f => (f.1, normalize f.2)) acc
      = .ok (assignAll (fs.map fun f => (f.1, norm f.2)) acc)
  | [], _, _ => rfl
  | f :: fs, acc, h => by
    rw [List.map_cons, assignEach, h f (by simp)]
    exact assignEach_ok fun g hg => h g (by simp [hg])

/-- A value without `undefined` and without infinities is normalized. -/
theorem normalize_ok {v : Value} : Canonicalizable v → normalize v = .ok (norm v) := by
  refine Value.induct v ?_ ?_ ?_ ?_ ?_ ?_ ?_
  · intro h; exact absurd h (by decide)
  · intro _; rfl
  · intro b _; rfl
  · intro x h
    have hfin : x.isFinite = true := Everywhere.here h
    rw [normalize, if_pos hfin, norm]
  · intro s _; rfl
  · intro items ih h
    rw [normalize, normalizeItems_ok fun v hv => ih v hv (h.item hv), norm_arr]
    rfl
  · intro fields ih h
    have hall : ∀ f ∈ sortKeys fields, normalize f.2 = .ok (norm f.2) := by
      intro f hf
      have hm : f ∈ fields := (sortKeys_perm fields).mem_iff.mp hf
      exact ih f hm (h.field hm)
    rw [normalize, outcomes_eq, sortKeys_map, assignEach_ok hall, norm_obj]
    rfl

theorem normalizeItems_eq_ok : ∀ {items ws : List Value}, normalizeItems items = .ok ws →
    ∀ v ∈ items, ∃ w, normalize v = .ok w
  | [], _, _, v, hv => absurd hv List.not_mem_nil
  | u :: us, ws, h, v, hv => by
    obtain ⟨w, hu, h⟩ := bind_eq_ok.mp h
    obtain ⟨ws', hus, -⟩ := bind_eq_ok.mp h
    rcases List.mem_cons.mp hv with rfl | hv
    · exact ⟨w, hu⟩
    · exact normalizeItems_eq_ok hus v hv

theorem assignEach_eq_ok : ∀ {rs : List (Text × Run Value)} {acc ws : List (Text × Value)},
    assignEach rs acc = .ok ws → ∀ r ∈ rs, ∃ w, r.2 = .ok w
  | [], _, _, _, r, hr => absurd hr List.not_mem_nil
  | (key, q) :: rs, acc, ws, h, r, hr => by
    obtain ⟨v, hv, h⟩ := bind_eq_ok.mp h
    rcases List.mem_cons.mp hr with rfl | hr
    · exact ⟨v, hv⟩
    · exact assignEach_eq_ok h r hr

/-- Only such a value is. -/
theorem canonicalizable_of_normalize {v : Value} : (∃ w, normalize v = .ok w) →
    Canonicalizable v := by
  refine Value.induct v ?_ ?_ ?_ ?_ ?_ ?_ ?_
  · rintro ⟨w, h⟩
    exact absurd h (by simp [normalize])
  · intro _; trivial
  · intro b _; trivial
  · rintro x ⟨w, h⟩
    rw [normalize] at h
    split at h
    · assumption
    · exact absurd h (by simp)
  · intro s _; trivial
  · rintro items ih ⟨w, h⟩
    rw [normalize] at h
    obtain ⟨ws, hi, -⟩ := bind_eq_ok.mp h
    refine everywhere_arr.mpr ⟨trivial, fun v hv => ?_⟩
    exact ih v hv (normalizeItems_eq_ok hi v hv)
  · rintro fields ih ⟨w, h⟩
    rw [normalize] at h
    obtain ⟨ws, hi, -⟩ := bind_eq_ok.mp h
    refine everywhere_obj.mpr ⟨trivial, fun f hf => ih f hf ?_⟩
    have hm : (f.1, normalize f.2) ∈ sortKeys (outcomes fields) := by
      rw [(sortKeys_perm _).mem_iff, outcomes_eq]
      exact List.mem_map.mpr ⟨f, hf, rfl⟩
    exact assignEach_eq_ok hi _ hm

theorem normalize_eq_ok {v w : Value} :
    normalize v = .ok w ↔ Canonicalizable v ∧ w = norm v := by
  constructor
  · intro h
    have hc := canonicalizable_of_normalize ⟨w, h⟩
    rw [normalize_ok hc] at h
    exact ⟨hc, (Except.ok.inj h).symm⟩
  · rintro ⟨hc, rfl⟩
    exact normalize_ok hc

theorem normalizeItems_error : ∀ {items : List Value} {e : Exn Failure},
    normalizeItems items = .error e → ∃ v ∈ items, normalize v = .error e
  | [], _, h => by cases h
  | v :: vs, e, h => by
    rcases bind_eq_error.mp h with hv | ⟨w, -, h⟩
    · exact ⟨v, List.mem_cons_self .., hv⟩
    · rcases bind_eq_error.mp h with hvs | ⟨ws, -, h⟩
      · obtain ⟨u, hu, hn⟩ := normalizeItems_error hvs
        exact ⟨u, List.mem_cons_of_mem _ hu, hn⟩
      · cases h

theorem assignEach_error : ∀ {rs : List (Text × Run Value)} {acc : List (Text × Value)} {e : Exn Failure},
    assignEach rs acc = .error e → ∃ r ∈ rs, r.2 = .error e
  | [], _, _, h => by cases h
  | (key, q) :: rs, acc, e, h => by
    rcases bind_eq_error.mp h with hq | ⟨v, -, h⟩
    · exact ⟨_, List.mem_cons_self .., hq⟩
    · obtain ⟨r, hr, he⟩ := assignEach_error h
      exact ⟨r, List.mem_cons_of_mem _ hr, he⟩

/-- What `normalize` throws. -/
theorem normalize_error {v : Value} {e : Exn Failure} :
    normalize v = .error e → ∃ message, e = .user (.canonicalization message) := by
  refine Value.induct v ?_ ?_ ?_ ?_ ?_ ?_ ?_
  · intro h
    exact ⟨_, (Except.error.inj h).symm⟩
  · intro h; cases h
  · intro b h; cases h
  · intro x h
    rw [normalize] at h
    split at h
    · cases h
    · exact ⟨_, (Except.error.inj h).symm⟩
  · intro s h; cases h
  · intro items ih h
    rw [normalize] at h
    rcases bind_eq_error.mp h with h | ⟨ws, -, h⟩
    · obtain ⟨u, hu, hn⟩ := normalizeItems_error h
      exact ih u hu hn
    · cases h
  · intro fields ih h
    rw [normalize] at h
    rcases bind_eq_error.mp h with h | ⟨ws, -, h⟩
    · obtain ⟨r, hr, he⟩ := assignEach_error h
      rw [(sortKeys_perm _).mem_iff, outcomes_eq] at hr
      obtain ⟨f, hf, rfl⟩ := List.mem_map.mp hr
      exact ih f hf he
    · cases h

/-! ## 3. Canonical texts -/

/-- The canonical text of a value that has one. -/
def canonicalText (v : Value) : Text := (stringify (norm v)).getD (js "undefined")

/-- The digest of a value that has one. -/
def digestOf (P : Platform) (v : Value) : Text := digestPrefix ++ P.sha256 (canonicalText v)

theorem canonicalize_eq_ok {v : Value} {t : Text} :
    canonicalize v = .ok t ↔ Canonicalizable v ∧ t = canonicalText v := by
  constructor
  · intro h
    obtain ⟨w, hn, h⟩ := bind_eq_ok.mp h
    obtain ⟨hc, rfl⟩ := normalize_eq_ok.mp hn
    exact ⟨hc, (Except.ok.inj h).symm⟩
  · rintro ⟨hc, rfl⟩
    rw [canonicalize, normalize_ok hc]
    rfl

theorem canonicalize_error {v : Value} {e : Exn Failure} (h : canonicalize v = .error e) :
    ∃ message, e = .user (.canonicalization message) := by
  rcases bind_eq_error.mp h with h | ⟨w, -, h⟩
  · exact normalize_error h
  · cases h
theorem digest_eq_ok {P : Platform} {v : Value} {d : Text} :
    digest P v = .ok d ↔ Canonicalizable v ∧ d = digestOf P v := by
  constructor
  · intro h
    obtain ⟨t, hn, h⟩ := bind_eq_ok.mp h
    obtain ⟨hc, rfl⟩ := canonicalize_eq_ok.mp hn
    exact ⟨hc, (Except.ok.inj h).symm⟩
  · rintro ⟨hc, rfl⟩
    rw [digest, canonicalize_eq_ok.mpr ⟨hc, rfl⟩]
    rfl

theorem digest_ok {P : Platform} {v : Value} (h : Canonicalizable v) :
    digest P v = .ok (digestOf P v) :=
  digest_eq_ok.mpr ⟨h, rfl⟩

theorem isDigestText_digestOf (P : Platform) (v : Value) : isDigestText (digestOf P v) = true := by
  have hlen := P.sha256_length (canonicalText v)
  have hhex := P.sha256_hex (canonicalText v)
  have hp : digestPrefix = [0x73, 0x68, 0x61, 0x32, 0x35, 0x36, 0x3A] := by decide
  rw [isDigestText, digestOf, hp]
  simp [hlen, hhex]

/-- An accepted digest is the digest of the value. -/
theorem verifyDigest_eq_true {P : Platform} {v expected : Value} :
    verifyDigest P v expected = .ok true ↔
      Canonicalizable v ∧ expected = .str (digestOf P v) := by
  constructor
  · intro h
    obtain ⟨t, -, h⟩ := bind_eq_ok.mp h
    split at h
    · obtain ⟨d, hd, h⟩ := bind_eq_ok.mp h
      obtain ⟨hc, rfl⟩ := digest_eq_ok.mp hd
      exact ⟨hc, str_strictEq.mp (Except.ok.inj h)⟩
    · exact absurd (Except.ok.inj h) (by simp)
  · rintro ⟨hc, rfl⟩
    simp [verifyDigest, isDigestText_digestOf, digest_ok hc, strictEq]

/-! ## 4. What the canonical text tells apart -/

theorem exactItems_iff {items : List Value} : ExactItems items ↔ ∀ v ∈ items, Exact v := by
  induction items with
  | nil => simp [ExactItems]
  | cons v vs ih => rw [ExactItems, ih, List.forall_mem_cons]

theorem exactFields_iff {fs : List (Text × Value)} : ExactFields fs ↔ ∀ f ∈ fs, Exact f.2 := by
  induction fs with
  | nil => simp [ExactFields]
  | cons f fs ih => rw [ExactFields, ih, List.forall_mem_cons]

/-- The members that the assignments leave behind. -/
def kept (fs : List (Text × Value)) : List (Text × Value) := fs.filter fun f => f.1 ≠ protoKey

theorem mem_kept {fs : List (Text × Value)} {f : Text × Value} :
    f ∈ kept fs ↔ f ∈ fs ∧ f.1 ≠ protoKey := by
  simp [kept]

theorem assignAll_eq : ∀ fs acc : List (Text × Value), assignAll fs acc = createAll (kept fs) acc
  | [], _ => rfl
  | (key, v) :: fs, acc => by
    have hstep : assignAll ((key, v) :: fs) acc = assignAll fs (assign key v acc) := rfl
    rw [hstep, assignAll_eq fs]
    by_cases h : key = protoKey
    · simp [kept, assign, h]
    · simp [kept, assign, h, createAll]

theorem of_mem_createAll : ∀ {fs acc : List (Text × Value)} {f : Text × Value},
    f ∈ createAll fs acc → f ∈ fs ∨ f ∈ acc
  | [], _, _, h => Or.inr h
  | (k, v) :: fs, acc, f, h => by
    rcases @of_mem_createAll fs _ _ h with h | h
    · exact Or.inl (List.mem_cons_of_mem _ h)
    · rcases of_mem_insertOwn h with rfl | h
      · exact Or.inl (by simp)
      · exact Or.inr h

theorem exact_norm {v : Value} : Canonicalizable v → Exact (norm v) := by
  refine Value.induct v ?_ ?_ ?_ ?_ ?_ ?_ ?_
  · intro h; exact absurd h (by decide)
  · intro _; trivial
  · intro b _; trivial
  · intro x h
    exact ⟨by rw [isFinite_normZero]; exact Everywhere.here h, normZero_idem x⟩
  · intro s _; trivial
  · intro items ih h
    rw [norm_arr]
    refine exactItems_iff.mpr fun w hw => ?_
    obtain ⟨v, hv, rfl⟩ := List.mem_map.mp hw
    exact ih v hv (h.item hv)
  · intro fields ih h
    rw [norm_obj, assignAll_eq]
    refine ⟨ordered_createAll List.Pairwise.nil, exactFields_iff.mpr fun f hf => ?_⟩
    rcases of_mem_createAll hf with hf | hf
    · obtain ⟨g, hg, rfl⟩ := List.mem_map.mp (mem_kept.mp hf).1
      have hm : g ∈ fields := (sortKeys_perm fields).mem_iff.mp hg
      exact ih g hm (h.field hm)
    · exact absurd hf List.not_mem_nil

theorem canonicalText_eq {v : Value} (h : Canonicalizable v) :
    stringify (norm v) = some (canonicalText v) := by
  obtain ⟨t, ht⟩ := stringify_of_exact (exact_norm h)
  rw [canonicalText, ht, Option.getD_some]

/-- Reading a canonical text back gives what `normalize` built. -/
theorem parse_canonicalText {v : Value} (h : Canonicalizable v) :
    parse (canonicalText v) = some (norm v) :=
  parse_stringify (exact_norm h) (canonicalText_eq h)

/-- **Values with one canonical text are normalized to one value.** -/
theorem canonicalText_inj {v w : Value} (hv : Canonicalizable v) (hw : Canonicalizable w) :
    canonicalText v = canonicalText w ↔ norm v = norm w := by
  constructor
  · intro h
    have := parse_canonicalText hv
    rw [h, parse_canonicalText hw] at this
    exact (Option.some.inj this).symm
  · intro h
    rw [canonicalText, canonicalText, h]

/-- The same for digests, if the platform separates the two texts. -/
theorem digestOf_inj {P : Platform} {v w : Value} (hv : Canonicalizable v)
    (hw : Canonicalizable w) (hsep : P.Separates (canonicalText v) (canonicalText w))
    (h : digestOf P v = digestOf P w) : norm v = norm w :=
  (canonicalText_inj hv hw).mp (hsep (List.append_cancel_left h))

/-! ## 5. What normalize loses -/

/-- The members of a normalized object are those of the object, `__proto__` left out. -/
theorem norm_obj_perm {fs : List (Text × Value)} (hnd : (fs.map Prod.fst).Nodup) :
    ∃ ns, norm (.obj fs) = .obj ns ∧
      ns.Perm ((kept fs).map fun f => (f.1, norm f.2)) := by
  refine ⟨_, norm_obj fs, ?_⟩
  have hperm : (kept ((sortKeys fs).map fun f => (f.1, norm f.2))).Perm
      ((kept fs).map fun f => (f.1, norm f.2)) := by
    have hmap : kept (fs.map fun f : Text × Value => (f.1, norm f.2))
        = (kept fs).map fun f : Text × Value => (f.1, norm f.2) := by
      rw [kept, kept, List.filter_map]; rfl
    rw [← hmap]
    exact ((sortKeys_perm fs).map _).filter _
  have hkeys : (((kept fs).map fun f => (f.1, norm f.2)).map Prod.fst).Nodup := by
    rw [List.map_map]
    exact (List.filter_sublist.map Prod.fst).nodup hnd
  have hnd' : ((kept ((sortKeys fs).map fun f : Text × Value => (f.1, norm f.2)) ++ []).map
      Prod.fst).Nodup := by
    rw [List.append_nil]
    exact (hperm.map Prod.fst).nodup_iff.mpr hkeys
  rw [assignAll_eq]
  have hall := createAll_perm hnd'
  rw [List.append_nil] at hall
  exact hall.trans hperm

theorem nodup_of_perm_kept {fs ns : List (Text × Value)} (hnd : (fs.map Prod.fst).Nodup)
    (h : ns.Perm ((kept fs).map fun f => (f.1, norm f.2))) : (ns.map Prod.fst).Nodup := by
  rw [(h.map Prod.fst).nodup_iff, List.map_map]
  exact (List.filter_sublist.map Prod.fst).nodup hnd

/-- Reading a member commutes with `norm`, for every key but `__proto__`. -/
theorem norm_get {fs : List (Text × Value)} (hnd : (fs.map Prod.fst).Nodup) {key : Text}
    (hkey : key ≠ protoKey) : (norm (.obj fs)).get key = norm ((Value.obj fs).get key) := by
  obtain ⟨ns, hns, hperm⟩ := norm_obj_perm hnd
  have hnd' := nodup_of_perm_kept hnd hperm
  rw [hns, get_obj, get_obj]
  cases hl : lookup key fs with
  | none =>
    have hnone : lookup key ns = none := by
      rw [lookup_eq_none] at hl ⊢
      intro hm
      rw [(hperm.map Prod.fst).mem_iff, List.map_map] at hm
      exact hl ((List.filter_sublist.map Prod.fst).subset hm)
    rw [hnone]
    rfl
  | some v =>
    have hm : (key, norm v) ∈ ns := by
      rw [hperm.mem_iff]
      exact List.mem_map.mpr ⟨(key, v), mem_kept.mpr ⟨mem_of_lookup hl, hkey⟩, rfl⟩
    rw [lookup_of_mem hnd' hm]
    rfl

/-- What is normalized alike has the same members, normalized. -/
theorem norm_get_congr {fs gs : List (Text × Value)} (hf : (fs.map Prod.fst).Nodup)
    (hg : (gs.map Prod.fst).Nodup) {key : Text} (hkey : key ≠ protoKey)
    (h : norm (.obj fs) = norm (.obj gs)) :
    norm ((Value.obj fs).get key) = norm ((Value.obj gs).get key) := by
  rw [← norm_get hf hkey, ← norm_get hg hkey, h]

theorem norm_strings (ts : List Text) : norm (.arr (ts.map .str)) = .arr (ts.map .str) := by
  rw [norm_arr, List.map_map]
  rfl

/-- One node of a value without `__proto__` members. -/
def ProtoFreeNode : Value → Prop
  | .obj fields => protoKey ∉ fields.map Prod.fst
  | _ => True

instance : DecidablePred ProtoFreeNode
  | .obj fields => inferInstanceAs (Decidable (protoKey ∉ fields.map Prod.fst))
  | .undefined | .null | .bool _ | .num _ | .str _ | .arr _ => inferInstanceAs (Decidable True)

/-- No object in the value has a member named `__proto__`. -/
def ProtoFree (v : Value) : Prop := Everywhere ProtoFreeNode v

instance : DecidablePred ProtoFree := fun v =>
  inferInstanceAs (Decidable (Everywhere ProtoFreeNode v))

theorem ProtoFree.here {fields : List (Text × Value)} (h : ProtoFree (.obj fields)) :
    protoKey ∉ fields.map Prod.fst :=
  Everywhere.here h

theorem kept_eq_self {fs : List (Text × Value)} (h : protoKey ∉ fs.map Prod.fst) : kept fs = fs := by
  refine List.filter_eq_self.mpr fun f hf => ?_
  have : f.1 ≠ protoKey := by
    intro e
    exact h (List.mem_map.mpr ⟨f, hf, e⟩)
  simpa using this

/-- What is built differs from the value only in key order and zeros, unless a `__proto__` member
was lost. -/
theorem same_norm_iff {v : Value} : IsJson v → (Same (norm v) v ↔ ProtoFree v) := by
  refine Value.induct v ?_ ?_ ?_ ?_ ?_ ?_ ?_
  · intro h; exact absurd h (by decide)
  · intro _; exact iff_of_true trivial trivial
  · intro b _; exact iff_of_true rfl trivial
  · intro x _; exact iff_of_true (normZero_idem x) trivial
  · intro s _; exact iff_of_true rfl trivial
  · intro items ih h
    rw [norm_arr, same_arr, List.forall₂_map_left_iff, List.forall₂_same, ProtoFree,
      everywhere_arr]
    simp only [ProtoFreeNode, true_and]
    exact forall₂_congr fun v hv => ih v hv (h.item hv)
  · intro fields ih h
    obtain ⟨ns, hns, hperm⟩ := norm_obj_perm h.nodup
    rw [hns, same_obj, ProtoFree, everywhere_obj]
    have hmem : ∀ f : Text × Value, f ∈ ns ↔ ∃ g ∈ fields, g.1 ≠ protoKey ∧ (g.1, norm g.2) = f := by
      intro f
      simp only [hperm.mem_iff, List.mem_map, mem_kept, and_assoc]
    constructor
    · rintro ⟨hlen, hall⟩
      have hno : protoKey ∉ fields.map Prod.fst := by
        intro hm
        obtain ⟨f, hf, hk⟩ := List.mem_map.mp hm
        have hlt : (kept fields).length < fields.length := by
          refine List.length_filter_lt_length_iff_exists.mpr ⟨f, hf, ?_⟩
          simpa using hk
        rw [hperm.length_eq, List.length_map] at hlen
        omega
      refine ⟨hno, fun f hf => ?_⟩
      have hne : f.1 ≠ protoKey := fun e => hno (List.mem_map.mpr ⟨f, hf, e⟩)
      obtain ⟨w, hw, hs⟩ := hall _ ((hmem _).mpr ⟨f, hf, hne, rfl⟩)
      rw [lookup_of_mem h.nodup hf] at hw
      obtain rfl := Option.some.inj hw
      exact (ih f hf (h.field hf)).mp hs
    · rintro ⟨hno, hall⟩
      refine ⟨by rw [hperm.length_eq, List.length_map, kept_eq_self hno], fun f hf => ?_⟩
      obtain ⟨g, hg, -, rfl⟩ := (hmem f).mp hf
      exact ⟨g.2, lookup_of_mem h.nodup hg, (ih g hg (h.field hg)).mpr (hall g hg)⟩

theorem map_norm_eq_iff : ∀ {vs ws : List Value}, (∀ v ∈ vs, ∀ w ∈ ws, norm v = norm w ↔ Same v w) →
    (vs.map norm = ws.map norm ↔ List.Forall₂ Same vs ws)
  | [], [], _ => by simp
  | [], _ :: _, _ => by simp
  | _ :: _, [], _ => by simp
  | v :: vs, w :: ws, h => by
    have ih := @map_norm_eq_iff vs ws
      fun v' hv' w' hw' => h v' (by simp [hv']) w' (by simp [hw'])
    rw [List.map_cons, List.map_cons, List.cons.injEq, ih, h v (by simp) w (by simp),
      List.forall₂_cons]

/-- Members that correspond key by key are, normalized, the same members. -/
theorem normed_perm {fs gs : List (Text × Value)} (hf : (fs.map Prod.fst).Nodup)
    (hlen : fs.length = gs.length)
    (hall : ∀ f ∈ fs, ∃ w, lookup f.1 gs = some w ∧ norm f.2 = norm w) :
    (fs.map fun f => (f.1, norm f.2)).Perm (gs.map fun f => (f.1, norm f.2)) := by
  have hnd : (fs.map fun f => (f.1, norm f.2)).Nodup := by
    refine List.Nodup.of_map Prod.fst ?_
    rw [List.map_map]
    exact hf
  have hsub : (fs.map fun f => (f.1, norm f.2)) ⊆ gs.map fun f => (f.1, norm f.2) := by
    intro p hp
    obtain ⟨f, hfm, rfl⟩ := List.mem_map.mp hp
    obtain ⟨w, hw, he⟩ := hall f hfm
    exact List.mem_map.mpr ⟨(f.1, w), mem_of_lookup hw, by rw [he]⟩
  exact (List.subperm_of_subset hnd hsub).perm_of_length_le (by simp [hlen])

/-- **Two values without `__proto__` members are normalized to one value exactly when they differ
in nothing but key order and zeros.** -/
theorem norm_eq_iff_same {v : Value} : IsJson v → ProtoFree v → ∀ w, IsJson w → ProtoFree w →
    (norm v = norm w ↔ Same v w) := by
  refine Value.induct v ?_ ?_ ?_ ?_ ?_ ?_ ?_
  · intro _ _ w _ _; cases w <;> simp [norm, Same]
  · intro _ _ w _ _; cases w <;> simp [norm, Same]
  · intro b _ _ w _ _; cases w <;> simp [norm, Same]
  · intro x _ _ w _ _; cases w <;> simp [norm, Same]
  · intro s _ _ w _ _; cases w <;> simp [norm, Same]
  · intro items ih hv pv w hw pw
    cases w with
    | arr ws =>
      rw [norm_arr, norm_arr, same_arr, Value.arr.injEq]
      refine map_norm_eq_iff fun v hvm w hwm => ?_
      exact ih v hvm (hv.item hvm) ((everywhere_arr.mp pv).2 v hvm) w (hw.item hwm)
        ((everywhere_arr.mp pw).2 w hwm)
    | _ => simp [norm, Same]
  · intro fs ih hv pv w hw pw
    cases w with
    | obj gs =>
      have ih' : ∀ f ∈ fs, ∀ w, lookup f.1 gs = some w → (norm f.2 = norm w ↔ Same f.2 w) := by
        intro f hf w hl
        have hm := mem_of_lookup hl
        exact ih f hf (hv.field hf) ((everywhere_obj.mp pv).2 f hf) w (hw.field hm)
          ((everywhere_obj.mp pw).2 _ hm)
      rw [same_obj]
      constructor
      · intro h
        obtain ⟨ns, hns, hperm⟩ := norm_obj_perm hv.nodup
        obtain ⟨ms, hms, hperm'⟩ := norm_obj_perm hw.nodup
        rw [hns, hms, Value.obj.injEq] at h
        subst h
        rw [kept_eq_self pv.here] at hperm
        rw [kept_eq_self pw.here] at hperm'
        have hboth := hperm.symm.trans hperm'
        refine ⟨by simpa using hboth.length_eq, fun f hf => ?_⟩
        have hm : (f.1, norm f.2) ∈ gs.map fun f => (f.1, norm f.2) :=
          hboth.mem_iff.mp (List.mem_map.mpr ⟨f, hf, rfl⟩)
        obtain ⟨g, hg, he⟩ := List.mem_map.mp hm
        obtain ⟨hk, hn⟩ := Prod.mk.inj he
        have hl : lookup f.1 gs = some g.2 := by rw [← hk]; exact lookup_of_mem hw.nodup hg
        exact ⟨g.2, hl, (ih' f hf g.2 hl).mp hn.symm⟩
      · rintro ⟨hlen, hall⟩
        have hperm := normed_perm hv.nodup hlen fun f hf => by
          obtain ⟨w, hl, hs⟩ := hall f hf
          exact ⟨w, hl, (ih' f hf w hl).mpr hs⟩
        have hkeys : ((fs.map fun f : Text × Value => (f.1, norm f.2)).map Prod.fst).Nodup := by
          rw [List.map_map]
          exact hv.nodup
        rw [norm_obj, norm_obj, ← sortKeys_map, ← sortKeys_map, sortKeys_eq_of_perm hkeys hperm]
    | _ => simp [norm, Same]

/-! ## 6. Canonical texts of JSON values -/

/-- What a canonical text is relied on for: equal texts mean equal values, and the text reads back
as the value, both up to key order and the sign of zeros. -/
structure FaithfulText (v w : Value) : Prop where
  decides : ∀ s t, canonicalize v = .ok s → canonicalize w = .ok t → (s = t ↔ Same v w)
  readsBack : ∀ s, canonicalize v = .ok s → ∃ u, parse s = some u ∧ Same u v
  readsBack' : ∀ t, canonicalize w = .ok t → ∃ u, parse t = some u ∧ Same u w

theorem readsBack_iff {v : Value} (h : IsJson v) :
    (∀ s, canonicalize v = .ok s → ∃ u, parse s = some u ∧ Same u v)
      ↔ (Canonicalizable v → ProtoFree v) := by
  constructor
  · intro hread hc
    obtain ⟨u, hu, hs⟩ := hread _ (canonicalize_eq_ok.mpr ⟨hc, rfl⟩)
    rw [parse_canonicalText hc] at hu
    obtain rfl := Option.some.inj hu
    exact (same_norm_iff h).mp hs
  · intro hp s hs
    obtain ⟨hc, rfl⟩ := canonicalize_eq_ok.mp hs
    exact ⟨norm v, parse_canonicalText hc, (same_norm_iff h).mpr (hp hc)⟩

/-- **When canonical texts are faithful.**  A JSON value has a canonical text exactly when its
numbers are finite, and the texts of two values are faithful exactly when neither of those that
have one holds a member named `__proto__`. -/
theorem faithfulText_iff {v w : Value} (hv : IsJson v) (hw : IsJson w) :
    ((∃ s, canonicalize v = .ok s) ↔ Canonicalizable v) ∧
      ((∃ t, canonicalize w = .ok t) ↔ Canonicalizable w) ∧
      (FaithfulText v w ↔
        (Canonicalizable v → ProtoFree v) ∧ (Canonicalizable w → ProtoFree w)) := by
  have hok : ∀ v, (∃ s, canonicalize v = .ok s) ↔ Canonicalizable v := fun v =>
    ⟨fun ⟨_, h⟩ => (canonicalize_eq_ok.mp h).1, fun h => ⟨_, canonicalize_eq_ok.mpr ⟨h, rfl⟩⟩⟩
  refine ⟨hok v, hok w, ?_⟩
  constructor
  · intro h
    exact ⟨(readsBack_iff hv).mp h.readsBack, (readsBack_iff hw).mp h.readsBack'⟩
  · rintro ⟨pv, pw⟩
    refine ⟨fun s t hs ht => ?_, (readsBack_iff hv).mpr pv, (readsBack_iff hw).mpr pw⟩
    obtain ⟨hcv, rfl⟩ := canonicalize_eq_ok.mp hs
    obtain ⟨hcw, rfl⟩ := canonicalize_eq_ok.mp ht
    rw [canonicalText_inj hcv hcw]
    exact norm_eq_iff_same hv (pv hcv) w hw (pw hcw)

/-- A value with nested objects, out of order keys and a negative zero, beside a reordered one. -/
theorem faithfulText_reordered :
    FaithfulText
      (.obj [(js "b", .arr [.num (.finite (Binary64.zero true)), .null]), (js "a", .obj [])])
      (.obj [(js "a", .obj []), (js "b", .arr [.num (.finite (Binary64.zero false)), .null])]) :=
  (faithfulText_iff (by decide) (by decide)).2.2.mpr ⟨fun _ => by decide, fun _ => by decide⟩

/-- `{"__proto__": true}`, which `JSON.parse` yields, has the canonical text of `{}`. -/
theorem not_faithfulText_proto :
    IsJson (.obj [(protoKey, .bool true)]) ∧ IsJson (.obj []) ∧
      ¬ FaithfulText (.obj [(protoKey, .bool true)]) (.obj []) := by
  refine ⟨by decide, by decide, fun h => ?_⟩
  have hs := (h.decides (js "{}") (js "{}") rfl rfl).mp rfl
  exact absurd (same_obj.mp hs).1 (by decide)

end Remediation
