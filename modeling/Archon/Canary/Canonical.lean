/-
# The canonical texts of the governed canary

`governed-canary.ts` has a serialiser of its own.  It joins the texts of the members in code unit
order, where the one of `integrity.ts` first rebuilds the object and then prints it.  A rebuilt
object has lost what stood under `__proto__`, and it lists the keys that are array indices first,
whatever order they were created in.

So the canary writes a JSON value with its members arranged by code units (`canonicalize_eq`), and
the control loop writes the same text exactly where every object of the value keeps its keys in that
order (`agrees_iff`).
-/
import Archon.Cloud.Agreement

namespace Canary

open Ecma Ecma.Value Remediation

/-! ## 1. canonicalize -/

/-- `fail`. -/
def fail {α : Type} (message : String) : Run α :=
  Remediation.fail ("Governed canary rejected the operation: " ++ message)

/-- The members, written one after another: the first that has no text ends it. -/
def memberTexts : List (Text × Run Text) → Run (List Text)
  | [] => .ok []
  | (key, r) :: rest => do
    let t ← r
    return (quote key ++ 0x3A :: t) :: (← memberTexts rest)

mutual

/-- `canonicalize`. -/
def canonicalize : Value → Run Text
  -- `Object.keys(undefined)` throws.
  | .undefined => .error .typeError
  | .null => .ok (js "null")
  | .bool b => .ok (if b then js "true" else js "false")
  | .str s => .ok (quote s)
  | .num x =>
    if x.isFinite then .ok x.normZero.text else fail "canonical JSON contains a non-finite number."
  | .arr items => do return 0x5B :: (commaSep (← canonicalItems items) ++ [0x5D])
  | .obj fields => do return 0x7B :: (commaSep (← memberTexts (sortKeys (texts fields))) ++ [0x7D])

/-- `value.map((item) => canonicalize(item))`. -/
def canonicalItems : List Value → Run (List Text)
  | [] => .ok []
  | v :: vs => do
    let t ← canonicalize v
    return t :: (← canonicalItems vs)

/-- What writing each member comes to. -/
def texts : List (Text × Value) → List (Text × Run Text)
  | [] => []
  | (key, v) :: fs => (key, canonicalize v) :: texts fs

end

/-- `sha256`. -/
def sha256 (P : Platform) (t : Text) : Text := js "sha256:" ++ P.sha256 t

/-- `digest`. -/
def digest (P : Platform) (v : Value) : Run Text := do return sha256 P (← canonicalize v)

/-! ## 2. What it writes -/

theorem texts_eq (fs : List (Text × Value)) :
    texts fs = fs.map fun f => (f.1, canonicalize f.2) := by
  induction fs with
  | nil => rfl
  | cons f fs ih => rw [texts, ih, List.map_cons]

theorem canonicalItems_ok {items : List Value} (text : Value → Text)
    (h : ∀ v ∈ items, canonicalize v = .ok (text v)) :
    canonicalItems items = .ok (items.map text) := by
  induction items with
  | nil => rfl
  | cons v vs ih =>
    obtain ⟨hv, hvs⟩ := List.forall_mem_cons.mp h
    rw [canonicalItems, hv, ih hvs]
    rfl

theorem memberTexts_ok {fields : List (Text × Value)} (text : Value → Text)
    (h : ∀ f ∈ fields, canonicalize f.2 = .ok (text f.2)) :
    memberTexts (fields.map fun f => (f.1, canonicalize f.2))
      = .ok (fields.map fun f => quote f.1 ++ 0x3A :: text f.2) := by
  induction fields with
  | nil => rfl
  | cons f fs ih =>
    obtain ⟨hf, hfs⟩ := List.forall_mem_cons.mp h
    rw [List.map_cons, memberTexts, hf, ih hfs]
    rfl

/-- Members with different keys have one order, whichever way they are sorted. -/
theorem sortKeys_eq_inOrder {α : Type} {fields : List (Text × α)}
    (h : (fields.map Prod.fst).Nodup) : sortKeys fields = inOrder codeUnitLe fields :=
  (Cloud.keyOrder_codeUnit.inOrder_eq h (sortKeys_perm fields).symm
    (List.pairwise_insertionSort KeyLe fields)).symm

theorem Canonicalizable.written {v : Value} (h : Canonicalizable v) : Value.Written v :=
  h.imp fun u hu => by
    cases u with
    | undefined => exact hu
    | num x => exact hu
    | _ => trivial

/-- **A value that has a canonical text is written with its members arranged by code units.** -/
theorem canonicalize_eq {v : Value} : Canonicalizable v → Keyed v →
    canonicalize v = .ok (Value.written (arranged codeUnitLe v)) := by
  refine Value.induct v ?_ ?_ ?_ ?_ ?_ ?_ ?_
  · intro h _
    exact h.here.elim
  · intro _ _
    rfl
  · intro b _ _
    rfl
  · intro x h _
    have hx : x.isFinite = true := h.here
    rw [canonicalize, if_pos hx, arranged, Value.written, stringify, isFinite_normZero, if_pos hx]
    rfl
  · intro s _ _
    rfl
  · intro items ih h hkeyed
    have hkeys := (everywhere_arr.mp hkeyed).2
    rw [canonicalize, canonicalItems_ok (fun v => Value.written (arranged codeUnitLe v))
      fun v hv => ih v hv (h.item hv) (hkeys v hv), arranged_arr, written_arr, List.map_map]
    rfl
  · intro fields ih h hkeyed
    have hkeys := (everywhere_obj.mp hkeyed).2
    have hsorted : ∀ f ∈ sortKeys fields,
        canonicalize f.2 = .ok (Value.written (arranged codeUnitLe f.2)) := by
      intro f hf
      have hf : f ∈ fields := (sortKeys_perm fields).mem_iff.mp hf
      exact ih f hf (h.field hf) (hkeys f hf)
    have hwritten : ∀ f ∈ (sortKeys fields).map fun f => (f.1, arranged codeUnitLe f.2),
        Value.Written f.2 := by
      intro g hg
      obtain ⟨f, hf, rfl⟩ := List.mem_map.mp hg
      have hf : f ∈ fields := (sortKeys_perm fields).mem_iff.mp hf
      exact (Cloud.written_arranged codeUnitLe (Canonicalizable.written (h.field hf))).1
    rw [canonicalize, texts_eq, sortKeys_map,
      memberTexts_ok (fun v => Value.written (arranged codeUnitLe v)) hsorted, arranged_obj,
      ← sortKeys_eq_inOrder hkeyed.nodup, written_obj hwritten, List.map_map]
    rfl

theorem canonicalItems_eq_ok {items : List Value} {ts : List Text}
    (h : canonicalItems items = .ok ts) : ∀ v ∈ items, ∃ t, canonicalize v = .ok t := by
  induction items generalizing ts with
  | nil => exact fun v hv => absurd hv List.not_mem_nil
  | cons v vs ih =>
    obtain ⟨t, hv, h⟩ := bind_eq_ok.mp h
    obtain ⟨ts', hvs, -⟩ := bind_eq_ok.mp h
    exact List.forall_mem_cons.mpr ⟨⟨t, hv⟩, ih hvs⟩

theorem memberTexts_eq_ok {rs : List (Text × Run Text)} {ts : List Text}
    (h : memberTexts rs = .ok ts) : ∀ r ∈ rs, ∃ t, r.2 = .ok t := by
  induction rs generalizing ts with
  | nil => exact fun r hr => absurd hr List.not_mem_nil
  | cons r rs ih =>
    obtain ⟨t, hr, h⟩ := bind_eq_ok.mp h
    obtain ⟨ts', hrs, -⟩ := bind_eq_ok.mp h
    exact List.forall_mem_cons.mpr ⟨⟨t, hr⟩, ih hrs⟩

/-- Only such a value is written. -/
theorem canonicalizable_of_ok {v : Value} : (∃ t, canonicalize v = .ok t) → Canonicalizable v := by
  refine Value.induct v ?_ ?_ ?_ ?_ ?_ ?_ ?_
  · rintro ⟨t, h⟩
    cases h
  · intro _
    trivial
  · intro b _
    trivial
  · rintro x ⟨t, h⟩
    rw [canonicalize] at h
    split at h
    · assumption
    · cases h
  · intro s _
    trivial
  · rintro items ih ⟨t, h⟩
    rw [canonicalize] at h
    obtain ⟨ts, hitems, -⟩ := bind_eq_ok.mp h
    exact everywhere_arr.mpr ⟨trivial, fun v hv => ih v hv (canonicalItems_eq_ok hitems v hv)⟩
  · rintro fields ih ⟨t, h⟩
    rw [canonicalize] at h
    obtain ⟨ts, hmembers, -⟩ := bind_eq_ok.mp h
    refine everywhere_obj.mpr ⟨trivial, fun f hf => ih f hf ?_⟩
    have hmem : (f.1, canonicalize f.2) ∈ sortKeys (texts fields) := by
      rw [(sortKeys_perm _).mem_iff, texts_eq]
      exact List.mem_map.mpr ⟨f, hf, rfl⟩
    exact memberTexts_eq_ok hmembers _ hmem

/-! ## 3. Where a rebuilt object keeps its members and their order -/

/-- One node of a value: no member is lost, and a key that an object lists before another also
stands before it in code unit order. -/
def AlignedNode : Value → Prop
  | .obj fields => protoKey ∉ fields.map Prod.fst ∧
      ∀ s ∈ fields.map Prod.fst, ∀ t ∈ fields.map Prod.fst,
        goesBefore s t = true → codeUnitLe s t = true
  | _ => True

instance : DecidablePred AlignedNode
  | .obj fields => inferInstanceAs (Decidable (protoKey ∉ fields.map Prod.fst ∧
      ∀ s ∈ fields.map Prod.fst, ∀ t ∈ fields.map Prod.fst,
        goesBefore s t = true → codeUnitLe s t = true))
  | .undefined | .null | .bool _ | .num _ | .str _ | .arr _ => inferInstanceAs (Decidable True)

/-- No object of the value has a member `__proto__`, and among the keys of each the array indices
stand in numeric order and before the others, when sorted by code units. -/
def Aligned (v : Value) : Prop := Everywhere AlignedNode v

instance : DecidablePred Aligned := fun v => inferInstanceAs (Decidable (Everywhere AlignedNode v))

theorem pairwise_goesBefore_iff {keys : List Text} (hnodup : keys.Nodup)
    (hsorted : keys.Pairwise fun s t => codeUnitLe s t = true) :
    (keys.Pairwise fun s t => s ≠ t ∧ goesBefore t s = false) ↔
      ∀ s ∈ keys, ∀ t ∈ keys, goesBefore s t = true → codeUnitLe s t = true := by
  induction keys with
  | nil => simp
  | cons k keys ih =>
    obtain ⟨hk, hkeys⟩ := List.nodup_cons.mp hnodup
    obtain ⟨hle, hrest⟩ := List.pairwise_cons.mp hsorted
    rw [List.pairwise_cons, ih hkeys hrest]
    constructor
    · rintro ⟨hbefore, hall⟩ s hs t ht hst
      rcases List.mem_cons.mp hs with rfl | hs'
      · rcases List.mem_cons.mp ht with rfl | ht'
        · exact Cloud.keyOrder_codeUnit.refl _
        · exact hle t ht'
      · rcases List.mem_cons.mp ht with rfl | ht'
        · rw [(hbefore s hs').2] at hst
          cases hst
        · exact hall s hs' t ht' hst
    · intro hall
      refine ⟨fun t ht => ⟨fun h => hk (h ▸ ht), ?_⟩, fun s hs t ht =>
        hall s (List.mem_cons_of_mem k hs) t (List.mem_cons_of_mem k ht)⟩
      -- a later key that belonged before `k` would be `k`
      by_contra hbefore
      have htk := hall t (List.mem_cons_of_mem k ht) k List.mem_cons_self
        (Bool.not_eq_false _ ▸ hbefore)
      exact hk (codeUnitLe_antisymm htk (hle t ht) ▸ ht)

/-- Sorted members are in property order exactly where the two orders do not contradict each other.
-/
theorem ordered_sortKeys_iff {fields : List (Text × Value)} (hnodup : (fields.map Prod.fst).Nodup) :
    Ordered (sortKeys fields) ↔ ∀ s ∈ fields.map Prod.fst, ∀ t ∈ fields.map Prod.fst,
      goesBefore s t = true → codeUnitLe s t = true := by
  have hperm := (sortKeys_perm fields).map Prod.fst
  have hsorted : ((sortKeys fields).map Prod.fst).Pairwise fun s t => codeUnitLe s t = true :=
    List.pairwise_map.mpr (List.pairwise_insertionSort KeyLe fields)
  have hkeys := pairwise_goesBefore_iff (hperm.nodup_iff.mpr hnodup) hsorted
  rw [List.pairwise_map] at hkeys
  refine hkeys.trans ?_
  simp only [hperm.mem_iff]

/-- **The rebuilt value is the arranged one exactly where the value is aligned.** -/
theorem norm_eq_arranged_iff {v : Value} : IsJson v →
    (norm v = arranged codeUnitLe v ↔ Aligned v) := by
  refine Value.induct v ?_ ?_ ?_ ?_ ?_ ?_ ?_
  · intro h
    exact absurd h (by decide)
  · intro _
    exact iff_of_true rfl trivial
  · intro b _
    exact iff_of_true rfl trivial
  · intro x _
    exact iff_of_true rfl trivial
  · intro s _
    exact iff_of_true rfl trivial
  · intro items ih h
    rw [norm_arr, arranged_arr, Value.arr.injEq, List.map_inj_left, Aligned, everywhere_arr]
    constructor
    · intro heq
      exact ⟨trivial, fun v hv => (ih v hv (h.item hv)).mp (heq v hv)⟩
    · rintro ⟨-, hall⟩ v hv
      exact (ih v hv (h.item hv)).mpr (hall v hv)
  · intro fields ih h
    have hmem : ∀ {f}, f ∈ sortKeys fields ↔ f ∈ fields := (sortKeys_perm fields).mem_iff
    rw [norm_obj, assignAll_eq, arranged_obj, ← sortKeys_eq_inOrder h.nodup, Value.obj.injEq,
      Aligned, everywhere_obj]
    -- what is left of an aligned object, sorted, is all of it and in property order
    have hbuilt : protoKey ∉ fields.map Prod.fst → Ordered (sortKeys fields) →
        createAll (kept ((sortKeys fields).map fun f => (f.1, Remediation.norm f.2))) []
          = (sortKeys fields).map fun f => (f.1, Remediation.norm f.2) := by
      intro hproto hordered
      have hkeys : ((sortKeys fields).map fun f => (f.1, Remediation.norm f.2)).map Prod.fst
          = (sortKeys fields).map Prod.fst := by
        rw [List.map_map]
        rfl
      rw [kept_eq_self (by rwa [hkeys, ((sortKeys_perm fields).map _).mem_iff])]
      exact createAll_ordered (ordered_congr hkeys.symm hordered)
    constructor
    · intro heq
      have hkeys :
          (createAll (kept ((sortKeys fields).map fun f => (f.1, Remediation.norm f.2))) []).map
            Prod.fst = (sortKeys fields).map Prod.fst := by
        rw [heq, List.map_map]
        rfl
      have hordered : Ordered (sortKeys fields) := ordered_congr hkeys (ordered_createAll .nil)
      have hproto : protoKey ∉ fields.map Prod.fst := by
        intro hp
        rw [← ((sortKeys_perm fields).map _).mem_iff, ← hkeys] at hp
        obtain ⟨f, hf, hfp⟩ := List.mem_map.mp hp
        rcases of_mem_createAll hf with hf | hf
        · exact (mem_kept.mp hf).2 hfp
        · cases hf
      rw [hbuilt hproto hordered, List.map_inj_left] at heq
      refine ⟨⟨hproto, (ordered_sortKeys_iff h.nodup).mp hordered⟩, fun f hf => ?_⟩
      exact (ih f hf (h.field hf)).mp (Prod.mk.inj (heq f (hmem.mpr hf))).2
    · rintro ⟨⟨hproto, hkeys⟩, hall⟩
      rw [hbuilt hproto ((ordered_sortKeys_iff h.nodup).mpr hkeys)]
      refine List.map_congr_left fun f hf => ?_
      have hf : f ∈ fields := hmem.mp hf
      rw [(ih f hf (h.field hf)).mpr (hall f hf)]

/-! ## 4. The two texts -/

/-- What is exact is printed as it is. -/
theorem printed_of_exact {v : Value} : Exact v → Value.Written v ∧ printed v = v := by
  refine Value.induct v ?_ ?_ ?_ ?_ ?_ ?_ ?_
  · intro h
    exact h.elim
  · intro _
    exact ⟨trivial, rfl⟩
  · intro b _
    exact ⟨trivial, rfl⟩
  · intro x h
    exact ⟨h.1, by rw [printed, if_pos h.1, h.2]⟩
  · intro s _
    exact ⟨trivial, rfl⟩
  · intro items ih h
    have hitems := exactItems_iff.mp h
    refine ⟨everywhere_arr.mpr ⟨trivial, fun v hv => (ih v hv (hitems v hv)).1⟩, ?_⟩
    rw [printed_arr, List.map_congr_left fun v hv => (ih v hv (hitems v hv)).2, List.map_id']
  · intro fields ih h
    have hfields := exactFields_iff.mp h.2
    refine ⟨everywhere_obj.mpr ⟨trivial, fun f hf => (ih f hf (hfields f hf)).1⟩, ?_⟩
    have hid : ∀ f ∈ fields, (f.1, printed f.2) = f := fun f hf =>
      Prod.ext rfl (ih f hf (hfields f hf)).2
    rw [printed_obj, List.map_congr_left hid, List.map_id']

/-- **The two texts of a value are the same exactly where it is aligned.** -/
theorem written_eq_canonicalText_iff {v : Value} (h : IsJson v) (hc : Canonicalizable v) :
    Value.written (arranged codeUnitLe v) = canonicalText v ↔ Aligned v := by
  have hwritten := Cloud.written_arranged codeUnitLe (Canonicalizable.written hc)
  have hnorm := printed_of_exact (exact_norm hc)
  rw [← norm_eq_arranged_iff h]
  constructor
  · intro heq
    have hprinted := stringify_inj hnorm.1 hwritten.1
      (by rw [canonicalText_eq hc, ← heq, stringify_written hwritten.1])
    rwa [hnorm.2, hwritten.2] at hprinted
  · intro heq
    have hsome := canonicalText_eq hc
    rw [heq, stringify_written hwritten.1] at hsome
    exact Option.some.inj hsome

/-- The canary and the control loop agree on a value: both have a text for it or neither has, the
text is the same, and so is its digest. -/
structure Agrees (P : Platform) (v : Value) : Prop where
  defined : (∃ t, canonicalize v = .ok t) ↔ ∃ t, Remediation.canonicalize v = .ok t
  text : ∀ s t, canonicalize v = .ok s → Remediation.canonicalize v = .ok t → s = t
  digest : ∀ d e, digest P v = .ok d → Remediation.digest P v = .ok e → d = e

/-- **Where the canary's canonical text is the one the control loop signs.**  The two agree on a
JSON value exactly when it is aligned, or has an infinite number somewhere and no text in either. -/
theorem agrees_iff (P : Platform) {v : Value} (h : IsJson v) :
    Agrees P v ↔ (Canonicalizable v → Aligned v) := by
  constructor
  · intro hagrees hc
    rw [← written_eq_canonicalText_iff h hc]
    exact hagrees.text _ _ (canonicalize_eq hc h.keyed) (canonicalize_eq_ok.mpr ⟨hc, rfl⟩)
  · intro haligned
    have htext : ∀ s t, canonicalize v = .ok s → Remediation.canonicalize v = .ok t → s = t := by
      intro s t hs ht
      obtain ⟨hc, rfl⟩ := canonicalize_eq_ok.mp ht
      rw [canonicalize_eq hc h.keyed] at hs
      rw [← Except.ok.inj hs]
      exact (written_eq_canonicalText_iff h hc).mpr (haligned hc)
    refine ⟨⟨fun ht => ?_, fun ht => ?_⟩, htext, fun d e hd he => ?_⟩
    · exact ⟨_, canonicalize_eq_ok.mpr ⟨canonicalizable_of_ok ht, rfl⟩⟩
    · obtain ⟨t, ht⟩ := ht
      exact ⟨_, canonicalize_eq (canonicalize_eq_ok.mp ht).1 h.keyed⟩
    · obtain ⟨s, hs, hd⟩ := bind_eq_ok.mp hd
      obtain ⟨t, ht, he⟩ := bind_eq_ok.mp he
      rw [← Except.ok.inj hd, ← Except.ok.inj he, htext s t hs ht]
      rfl

/-- Nested objects, keys out of order and a negative zero. -/
theorem agrees_nested : Agrees .node
    (.obj [(js "7", .arr [.num (.finite (Binary64.zero true)), .null]),
      (js "tags", .obj [(js "b", .bool true), (js "a", .str (js "x"))])]) :=
  (agrees_iff .node (by decide)).mpr fun _ => by decide

/-- **An index moves, and a member is lost**: the control loop writes `{"9":null,"10":null}` where
the canary writes `{"10":null,"9":null}`, and nothing at all of a member `__proto__`. -/
theorem not_agrees_indices :
    IsJson (.obj [(js "9", .null), (js "10", .null)]) ∧ IsJson (.obj [(protoKey, .null)])
      ∧ ¬ Agrees .node (.obj [(js "9", .null), (js "10", .null)])
      ∧ ¬ Agrees .node (.obj [(protoKey, .null)]) := by
  refine ⟨by decide, by decide, fun h => ?_, fun h => ?_⟩
  · exact absurd (h.text (js "\x7b\"10\":null,\"9\":null\x7d")
      (js "\x7b\"9\":null,\"10\":null\x7d") (by decide)
      (by decide)) (by decide)
  · exact absurd (h.text (js "\x7b\"__proto__\":null\x7d") (js "{}") (by decide) (by decide))
      (by decide)

end Canary
