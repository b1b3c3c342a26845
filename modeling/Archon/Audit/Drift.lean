/-
# Drift between two harvests

`detectDrift` of `version-history.ts` indexes the attributes of two harvests and reports those whose
values differ.  An index is keyed by one string, the subject and the attribute with a separator between
them, and the string is split at its separators when a drift is reported.

A subject or an attribute that has the separator in it is therefore reported under another name, and two
pairs with one joined string share an entry.  `detectDrift_exact_iff` says when this does no harm.
-/
import Archon.Audit.Consistency
import Archon.Ecma.Maps
import Mathlib.Data.List.TakeWhile

namespace Audit

open Ecma Ecma.Value

/-! ## 1. Indexes -/

/-- One attribute of one fact. -/
structure Row where
  subject : Text
  attr : Text
  value : Value

/-- `scalarAttrs`. -/
def scalarAttrs (f : AuditFact) : List (Text × Value) := attributesOf f

/-- `f.metadata?.["record"] ?? f.sourceRef`. -/
def recordOrSource (f : AuditFact) : Value :=
  let record := f.get "record"
  if record.isNullish then (f.sourceRef.map Value.str).getD .undefined else record

/-- The attributes of a fact, if it has a subject. -/
def rowsOf (f : AuditFact) : Js String (List Row) :=
  let subject := recordOrSource f
  if subject.truthy then
    (scalarAttrs f).mapM fun e => do return ⟨← subject.toText, e.1, e.2⟩
  else .ok []

/-- The attributes of a harvest, in the order in which they are set. -/
def rows (facts : List AuditFact) : Js String (List Row) := do return (← facts.mapM rowsOf).flatten

/-- A map that is filled from rows. -/
def indexBy {κ : Type} [DecidableEq κ] (key : Text → Text → κ) (rs : List Row) : JsMap κ Value :=
  rs.foldl (fun m r => m.set (key r.subject r.attr) r.value) .empty

/-- U+241F. -/
def separator : UInt16 := 0x241F

/-- The subject and the attribute in one string. -/
def joined (subject attr : Text) : Text := subject ++ separator :: attr

/-- `index`. -/
def index (rs : List Row) : JsMap Text Value := indexBy joined rs

/-! ## 2. detectDrift -/

/-- `Drift`. -/
structure Drift where
  subject : Text
  attr : Text
  before : Value
  after : Value

/-- The first two parts of a string that is split at its separators. -/
def splitKey (key : Text) : Text × Text :=
  (key.takeWhile (· ≠ separator), ((key.dropWhile (· ≠ separator)).drop 1).takeWhile (· ≠ separator))

/-- The drift that an entry of the later index is. -/
def driftOf (before : JsMap Text Value) (entry : Text × Value) : Option Drift :=
  match before.get entry.1 with
  | none => none
  | some value =>
    if stringify value = stringify entry.2 then none
    else some ⟨(splitKey entry.1).1, (splitKey entry.1).2, value, entry.2⟩

/-- The comparator of the sort. -/
def driftLe (d e : Drift) : Bool :=
  if d.subject ≠ e.subject then codeUnitLe d.subject e.subject else codeUnitLe d.attr e.attr

/-- The drifts, given the attributes of both harvests. -/
def driftsBetween (prior current : List Row) : List Drift :=
  ((index current).entries.filterMap (driftOf (index prior))).insertionSort fun d e => driftLe d e = true

/-- `detectDrift`. -/
def detectDrift (prior current : List AuditFact) : Js String (List Drift) := do
  let before ← rows prior
  let after ← rows current
  return driftsBetween before after

/-! ## 3. Keys -/

section Keys

variable {subject attr key : Text} {rs before after : List Row}

/-- A name can stand in a key. -/
def Joinable (t : Text) : Prop := separator ∉ t

theorem takeWhile_joinable (h : Joinable subject) (t : Text) :
    (subject ++ separator :: t).takeWhile (· ≠ separator) = subject := by
  have hall : ∀ u ∈ subject, decide (u ≠ separator) = true := by
    intro u hu
    exact decide_eq_true (ne_of_mem_of_not_mem hu h)
  rw [List.takeWhile_append_of_pos hall]
  simp

theorem dropWhile_joinable (h : Joinable subject) (t : Text) :
    (subject ++ separator :: t).dropWhile (· ≠ separator) = separator :: t := by
  have hall : ∀ u ∈ subject, decide (u ≠ separator) = true := by
    intro u hu
    exact decide_eq_true (ne_of_mem_of_not_mem hu h)
  rw [List.dropWhile_append_of_pos hall]
  simp

/-- A key of joinable names is split into them. -/
theorem splitKey_joined (hs : Joinable subject) (ha : Joinable attr) :
    splitKey (joined subject attr) = (subject, attr) := by
  have hall : attr.takeWhile (· ≠ separator) = attr :=
    List.takeWhile_eq_self_iff.mpr fun u hu => decide_eq_true (ne_of_mem_of_not_mem hu ha)
  rw [splitKey, joined, takeWhile_joinable hs, dropWhile_joinable hs, List.drop_one, List.tail_cons, hall]

/-- What a key is split into is joinable. -/
theorem joinable_splitKey (key : Text) : Joinable (splitKey key).1 ∧ Joinable (splitKey key).2 := by
  have htake : ∀ t : Text, Joinable (t.takeWhile (· ≠ separator)) := by
    intro t hmem
    simpa using List.mem_takeWhile_imp hmem
  exact ⟨htake _, htake _⟩

/-- Joinable names have a key of their own. -/
theorem eq_of_joined {subject' attr' : Text} (hs : Joinable subject) (ha : Joinable attr)
    (h : joined subject' attr' = joined subject attr) : subject' = subject ∧ attr' = attr := by
  have hcount : (subject'.count separator) + (attr'.count separator) = 0 := by
    have heq := congrArg (List.count separator) h
    rw [joined, joined, List.count_append, List.count_append, List.count_cons_self, List.count_cons_self,
      List.count_eq_zero_of_not_mem hs, List.count_eq_zero_of_not_mem ha] at heq
    omega
  have hs' : Joinable subject' := List.count_eq_zero.mp (by omega)
  have ha' : Joinable attr' := List.count_eq_zero.mp (by omega)
  have hsplit := congrArg splitKey h
  rw [splitKey_joined hs' ha', splitKey_joined hs ha] at hsplit
  exact Prod.mk.inj hsplit

/-- What a map that is filled from rows has under a key: the last value. -/
theorem get_indexBy {κ : Type} [DecidableEq κ] (key : Text → Text → κ) (rs : List Row) (k : κ) :
    (indexBy key rs).get k = ((rs.filter fun r => key r.subject r.attr = k).getLast?).map Row.value := by
  induction rs using List.reverseRecOn with
  | nil => rfl
  | append_singleton rs r ih =>
    rw [indexBy, List.foldl_append, List.foldl_cons, List.foldl_nil, JsMap.get_set, List.filter_append]
    by_cases hk : key r.subject r.attr = k
    · rw [if_pos hk]
      simp [hk]
    · rw [if_neg hk]
      have hnone : [r].filter (fun r => key r.subject r.attr = k) = [] := by simp [hk]
      rw [hnone, List.append_nil]
      exact ih

/-- Under a key of joinable names stands what the attribute has. -/
theorem get_index_joined (hs : Joinable subject) (ha : Joinable attr) (rs : List Row) :
    (index rs).get (joined subject attr) = (indexBy Prod.mk rs).get (subject, attr) := by
  have hfilter : ∀ r : Row, joined r.subject r.attr = joined subject attr ↔
      (r.subject, r.attr) = (subject, attr) := by
    intro r
    constructor
    · intro h
      obtain ⟨h1, h2⟩ := eq_of_joined hs ha h
      rw [h1, h2]
    · intro h
      obtain ⟨h1, h2⟩ := Prod.mk.inj h
      rw [h1, h2]
  rw [index, get_indexBy, get_indexBy]
  simp only [hfilter]

theorem exists_row_of_get {κ : Type} [DecidableEq κ] {key : Text → Text → κ} {k : κ} {v : Value}
    (h : (indexBy key rs).get k = some v) : ∃ r ∈ rs, key r.subject r.attr = k := by
  rw [get_indexBy, Option.map_eq_some_iff] at h
  obtain ⟨r, hr, -⟩ := h
  have hmem := List.mem_filter.mp (List.mem_of_getLast? hr)
  exact ⟨r, hmem.1, of_decide_eq_true hmem.2⟩

/-! ## 4. When the drifts are right -/

/-- What stands under a key in two maps, and has not one JSON text.  Two JSON values with one text are
one value, up to the sign of a zero (`stringify_inj`). -/
def Differs {κ : Type} [DecidableEq κ] (before after : JsMap κ Value) (k : κ) : Prop :=
  ∃ v w, before.get k = some v ∧ after.get k = some w ∧ stringify v ≠ stringify w

/-- The attribute of the subject has a value in both harvests, and they differ. -/
def Drifted (before after : List Row) (subject attr : Text) : Prop :=
  Differs (indexBy Prod.mk before) (indexBy Prod.mk after) (subject, attr)

/-- The drifts are those that there are, each once. -/
structure Exactly (before after : List Row) (drifts : List Drift) : Prop where
  nodup : (drifts.map fun d => (d.subject, d.attr)).Nodup
  mem_iff : ∀ subject attr, (subject, attr) ∈ drifts.map (fun d => (d.subject, d.attr)) ↔
    Drifted before after subject attr

/-- A separator in a name does no harm: neither the attribute drifts, nor what stands under its key. -/
def Harmless (before after : List Row) : Prop :=
  ∀ subject attr, ¬(Joinable subject ∧ Joinable attr) → ¬Drifted before after subject attr
    ∧ ¬Differs (index before) (index after) (joined subject attr)

theorem driftOf_eq_some {before : JsMap Text Value} {entry : Text × Value} {d : Drift}
    (h : driftOf before entry = some d) : (d.subject, d.attr) = splitKey entry.1
      ∧ ∃ v, before.get entry.1 = some v ∧ stringify v ≠ stringify entry.2 := by
  rw [driftOf] at h
  split at h
  case h_1 => cases h
  case h_2 v hv =>
    split at h
    case isTrue => cases h
    case isFalse hne =>
      obtain rfl := Option.some.inj h
      exact ⟨rfl, v, hv, hne⟩

/-- The keys whose values differ, in the order of the later index. -/
def driftedKeys (before after : List Row) : List Text :=
  ((index after).entries.filter fun e => (driftOf (index before) e).isSome).map Prod.fst

theorem mem_driftedKeys : key ∈ driftedKeys before after ↔ Differs (index before) (index after) key := by
  rw [driftedKeys, List.mem_map]
  constructor
  · rintro ⟨e, he, rfl⟩
    obtain ⟨hmem, hsome⟩ := List.mem_filter.mp he
    obtain ⟨d, hd⟩ := Option.isSome_iff_exists.mp hsome
    obtain ⟨-, v, hv, hne⟩ := driftOf_eq_some hd
    exact ⟨v, e.2, hv, JsMap.mem_iff_get.mp hmem, hne⟩
  · rintro ⟨v, w, hv, hw, hne⟩
    refine ⟨(key, w), List.mem_filter.mpr ⟨JsMap.mem_iff_get.mpr hw, ?_⟩, rfl⟩
    rw [driftOf, hv]
    simp [hne]

theorem nodup_driftedKeys : (driftedKeys before after).Nodup :=
  (index after).nodup.sublist (List.filter_sublist.map _)

/-- What is reported of each of them. -/
theorem driftsBetween_perm : ((driftsBetween before after).map fun d => (d.subject, d.attr)).Perm
    ((driftedKeys before after).map splitKey) := by
  have hperm : (driftsBetween before after).Perm
      ((index after).entries.filterMap (driftOf (index before))) := List.perm_insertionSort _ _
  refine (hperm.map _).trans (List.Perm.of_eq ?_)
  rw [driftedKeys, List.map_map]
  induction (index after).entries with
  | nil => rfl
  | cons e es ih =>
    cases hd : driftOf (index before) e with
    | none => rw [List.filterMap_cons_none hd, List.filter_cons_of_neg (by simp [hd]), ih]
    | some d =>
      rw [List.filterMap_cons_some hd, List.filter_cons_of_pos (by simp [hd]), List.map_cons,
        List.map_cons, ih, (driftOf_eq_some hd).1]
      rfl

theorem differs_joined (hs : Joinable subject) (ha : Joinable attr) :
    Differs (index before) (index after) (joined subject attr) ↔ Drifted before after subject attr := by
  rw [Drifted, Differs, Differs, get_index_joined hs ha, get_index_joined hs ha]

/-- **Drifts are reported exactly** when no separator does harm. -/
theorem driftsBetween_iff : Exactly before after (driftsBetween before after) ↔ Harmless before after := by
  constructor
  · intro h subject attr hjoin
    constructor
    · intro hdrift
      have hmem := driftsBetween_perm.mem_iff.mp ((h.mem_iff _ _).mpr hdrift)
      obtain ⟨key, -, hkey⟩ := List.mem_map.mp hmem
      have hsplit := joinable_splitKey key
      rw [hkey] at hsplit
      exact hjoin hsplit
    · intro hdiffers
      -- the key is reported under the names of its first two parts, and they have a key as well
      obtain ⟨hs, ha⟩ := joinable_splitKey (joined subject attr)
      have hmem := mem_driftedKeys.mpr hdiffers
      have hreported : splitKey (joined subject attr) ∈ (driftedKeys before after).map splitKey :=
        List.mem_map_of_mem hmem
      have hdrift : Drifted before after _ _ :=
        (h.mem_iff _ _).mp (driftsBetween_perm.mem_iff.mpr hreported)
      have hmem' := mem_driftedKeys.mpr ((differs_joined hs ha).mpr hdrift)
      have hinj := List.inj_on_of_nodup_map (driftsBetween_perm.nodup_iff.mp h.nodup) hmem' hmem
        (splitKey_joined hs ha)
      obtain ⟨h1, h2⟩ := eq_of_joined hs ha hinj.symm
      exact hjoin ⟨h1 ▸ hs, h2 ▸ ha⟩
  · intro h
    -- every key that is reported is one of joinable names
    have hkeys : ∀ key ∈ driftedKeys before after, ∃ subject attr, Joinable subject ∧ Joinable attr
        ∧ key = joined subject attr := by
      intro key hkey
      have hdiffers := mem_driftedKeys.mp hkey
      obtain ⟨v, w, -, hw, -⟩ := hdiffers
      obtain ⟨r, -, hr⟩ := exists_row_of_get hw
      by_contra hne
      refine (h r.subject r.attr fun hjoin => ?_).2 (hr ▸ mem_driftedKeys.mp hkey)
      exact hne ⟨r.subject, r.attr, hjoin.1, hjoin.2, hr.symm⟩
    constructor
    · rw [driftsBetween_perm.nodup_iff]
      refine (List.nodup_map_iff_inj_on nodup_driftedKeys).mpr fun key hkey key' hkey' heq => ?_
      obtain ⟨s, a, hs, ha, rfl⟩ := hkeys key hkey
      obtain ⟨s', a', hs', ha', rfl⟩ := hkeys key' hkey'
      rw [splitKey_joined hs ha, splitKey_joined hs' ha'] at heq
      obtain ⟨rfl, rfl⟩ := Prod.mk.inj heq
      rfl
    · intro subject attr
      rw [driftsBetween_perm.mem_iff, List.mem_map]
      constructor
      · rintro ⟨key, hkey, heq⟩
        obtain ⟨s, a, hs, ha, rfl⟩ := hkeys key hkey
        rw [splitKey_joined hs ha] at heq
        obtain ⟨rfl, rfl⟩ := Prod.mk.inj heq
        exact (differs_joined hs ha).mp (mem_driftedKeys.mp hkey)
      · intro hdrift
        have hjoin : Joinable subject ∧ Joinable attr := by
          by_contra hne
          exact (h subject attr hne).1 hdrift
        refine ⟨joined subject attr, ?_, splitKey_joined hjoin.1 hjoin.2⟩
        exact mem_driftedKeys.mpr ((differs_joined hjoin.1 hjoin.2).mpr hdrift)

/-- `detectDrift` returns the drifts that there are between the attributes of the harvests. -/
def DetectsExactly (prior current : List AuditFact) : Prop :=
  ∃ before after drifts, rows prior = .ok before ∧ rows current = .ok after
    ∧ detectDrift prior current = .ok drifts ∧ Exactly before after drifts

/-- **When drifts are detected exactly**: every subject can be printed, and no separator does harm. -/
theorem detectDrift_exact_iff (prior current : List AuditFact) : DetectsExactly prior current ↔
    ∃ before after, rows prior = .ok before ∧ rows current = .ok after ∧ Harmless before after := by
  constructor
  · rintro ⟨before, after, drifts, hbefore, hafter, hdetect, hexact⟩
    rw [detectDrift, hbefore, hafter, ok_bind, ok_bind] at hdetect
    obtain rfl := Except.ok.inj hdetect
    exact ⟨before, after, hbefore, hafter, driftsBetween_iff.mp hexact⟩
  · rintro ⟨before, after, hbefore, hafter, hharmless⟩
    refine ⟨before, after, driftsBetween before after, hbefore, hafter, ?_, driftsBetween_iff.mpr hharmless⟩
    rw [detectDrift, hbefore, hafter]
    rfl

/-- The owner of a dataset whose name has the separator in it. -/
def ownedFact (owner : String) : AuditFact where
  id := js "scan:ownership"
  kind := js "ownership"
  source := js "dbt"
  sourceRef := some (js "a␟b")
  metadata := some ⟨[(js "record", lit "a␟b"), (js "owner", lit owner)],
    (by decide : [js "record", js "owner"].Nodup)⟩
  createdAt := js "2026-07-14T10:00:00.000Z"

/-- **A drift under another name.** -/
theorem separator_drift : (∃ value value', detectDrift [ownedFact "x"] [ownedFact "y"]
      = .ok [⟨js "a", js "b", value, value'⟩])
    ∧ ¬DetectsExactly [ownedFact "x"] [ownedFact "y"] := by
  have hrows : ∀ owner : String, rows [ownedFact owner] = .ok [⟨js "a␟b", js "owner", lit owner⟩] :=
    fun _ => rfl
  refine ⟨⟨lit "x", lit "y", by rw [detectDrift, hrows, hrows]; rfl⟩, fun h => ?_⟩
  obtain ⟨before, after, hbefore, hafter, hharmless⟩ := (detectDrift_exact_iff _ _).mp h
  obtain rfl := Except.ok.inj (hbefore.symm.trans (hrows "x"))
  obtain rfl := Except.ok.inj (hafter.symm.trans (hrows "y"))
  refine (hharmless (js "a␟b") (js "owner") ?_).1 ⟨lit "x", lit "y", rfl, rfl, by decide⟩
  rintro ⟨hjoinable, -⟩
  exact hjoinable (by decide)

end Keys

end Audit
