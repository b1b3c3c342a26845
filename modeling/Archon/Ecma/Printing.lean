/-
# A printed value is read in one way

`JSON.stringify` tells values apart: two values with one text differ in nothing but the sign of zeros
(`stringify_inj`), in whatever order their members stand.  That is no matter of a reader, which would
put the members in property order first.  A text is taken apart from its front, and where a numeral ends
is decided by the unit after it.

A canonical text is the text of a value whose members have been arranged by their keys (`arranged`).  Two
orders arrange a value alike only where they agree on the keys of each of its objects
(`arranged_eq_iff`).
-/
import Archon.Ecma.Tree
import Archon.Ecma.Twins

namespace Ecma

open List (Forall₂)

/-! ## 1. Texts between commas -/

section Commas

variable {α : Type} {text : α → Text} {R : α → α → Prop} {close : UInt16}

/-- What stands after the first of some texts. -/
def afterFirst (ts : List Text) (close : UInt16) (r : Text) : Text :=
  match ts with
  | [] => close :: r
  | _ => 0x2C :: (commaSep ts ++ close :: r)

theorem commaSep_cons_append (t : Text) (ts : List Text) (close : UInt16) (r : Text) :
    commaSep (t :: ts) ++ close :: r = t ++ afterFirst ts close r := by
  cases ts with
  | nil => rfl
  | cons u us =>
    rw [commaSep, List.append_assoc]
    · rfl
    · exact List.cons_ne_nil _ _

theorem endsNumeral_afterFirst (hends : ∀ r, EndsNumeral (close :: r)) (ts : List Text) (r : Text) :
    EndsNumeral (afterFirst ts close r) := by
  cases ts with
  | nil => exact hends r
  | cons t ts => exact endsNumeral_comma _

/-- **A list is taken apart, if each of its texts is.** -/
theorem commaSep_inj (hends : ∀ r, EndsNumeral (close :: r)) (hcomma : close ≠ 0x2C) {r r' : Text} :
    ∀ {l l' : List α},
      (∀ a ∈ l, ∀ b ∈ l', ∀ {r r'}, EndsNumeral r → EndsNumeral r' → text a ++ r = text b ++ r' →
        R a b ∧ r = r') →
      (∀ a ∈ l ++ l', ∃ u s, text a = u :: s ∧ u ≠ close) →
      commaSep (l.map text) ++ close :: r = commaSep (l'.map text) ++ close :: r' →
      Forall₂ R l l' ∧ r = r'
  | [], [], _, _, h => ⟨.nil, (List.cons.inj h).2⟩
  | [], b :: l', _, hhead, h => by
    obtain ⟨u, s, hu, hne⟩ := hhead b (by simp)
    rw [List.map_cons, commaSep_cons_append, hu] at h
    exact absurd (List.cons.inj h).1.symm hne
  | a :: l, [], _, hhead, h => by
    obtain ⟨u, s, hu, hne⟩ := hhead a (by simp)
    rw [List.map_cons, commaSep_cons_append, hu] at h
    exact absurd (List.cons.inj h).1 hne
  | a :: l, b :: l', hsplit, hhead, h => by
    rw [List.map_cons, List.map_cons, commaSep_cons_append, commaSep_cons_append] at h
    obtain ⟨hab, hrest⟩ := hsplit a (by simp) b (by simp) (endsNumeral_afterFirst hends _ _)
      (endsNumeral_afterFirst hends _ _) h
    have hsplit' : ∀ c ∈ l, ∀ d ∈ l', ∀ {r r'}, EndsNumeral r → EndsNumeral r' →
        text c ++ r = text d ++ r' → R c d ∧ r = r' := fun c hc d hd =>
      hsplit c (List.mem_cons_of_mem a hc) d (List.mem_cons_of_mem b hd)
    have hhead' : ∀ c ∈ l ++ l', ∃ u s, text c = u :: s ∧ u ≠ close := by
      intro c hc
      refine hhead c ?_
      rcases List.mem_append.mp hc with hc | hc
      · exact List.mem_append_left _ (List.mem_cons_of_mem a hc)
      · exact List.mem_append_right _ (List.mem_cons_of_mem b hc)
    cases l with
    | nil =>
      cases l' with
      | nil => exact ⟨.cons hab .nil, (List.cons.inj hrest).2⟩
      | cons d l' => exact absurd (List.cons.inj hrest).1 hcomma
    | cons c l =>
      cases l' with
      | nil => exact absurd (List.cons.inj hrest).1.symm hcomma
      | cons d l' =>
        obtain ⟨hall, hr⟩ := commaSep_inj hends hcomma hsplit' hhead' (List.cons.inj hrest).2
        exact ⟨.cons hab hall, hr⟩

end Commas

namespace Value

/-! ## 2. Printed values -/

/-- One node of a value that is printed as it is. -/
def WrittenNode : Value → Prop
  | .undefined => False
  | .num x => x.isFinite = true
  | _ => True

/-- Nothing is `undefined`, and every number is finite. -/
def Written (v : Value) : Prop := Everywhere WrittenNode v

/-- The text of a value that has one. -/
def written (v : Value) : Text := (stringify v).getD (js "null")

theorem stringify_written {v : Value} (h : Written v) : stringify v = some (written v) := by
  cases v with
  | undefined => exact h.here.elim
  | _ =>
    rw [written, stringify]
    rfl

theorem written_arr (items : List Value) :
    written (.arr items) = 0x5B :: (commaSep (items.map written) ++ [0x5D]) := by
  have hitems : itemTexts items = items.map written := by
    induction items with
    | nil => rfl
    | cons v vs ih =>
      rw [itemTexts, ih]
      rfl
  rw [written, stringify, hitems]
  rfl

/-- The text of a member. -/
def memberText (f : Text × Value) : Text := quote f.1 ++ 0x3A :: written f.2

theorem written_obj {fields : List (Text × Value)} (h : ∀ f ∈ fields, Written f.2) :
    written (.obj fields) = 0x7B :: (commaSep (fields.map memberText) ++ [0x7D]) := by
  have hmembers : memberTexts fields = fields.map memberText := by
    induction fields with
    | nil => rfl
    | cons f fs ih =>
      obtain ⟨hf, hfs⟩ := List.forall_mem_cons.mp h
      rw [memberTexts, stringify_written hf, ih hfs]
      rfl
  rw [written, stringify, hmembers]
  rfl

/-- The kinds of values that their first unit tells apart. -/
def kind : Value → Nat
  | .undefined | .null => 0
  | .bool b => if b then 1 else 2
  | .num _ => 3
  | .str _ => 4
  | .arr _ => 5
  | .obj _ => 6

/-- The kind that a unit begins. -/
def kindOf (u : UInt16) : Nat :=
  if u = 0x6E then 0 else if u = 0x74 then 1 else if u = 0x66 then 2 else if u = 0x22 then 4
  else if u = 0x5B then 5 else if u = 0x7B then 6 else 3

theorem written_head {v : Value} (h : Written v) :
    ∃ u s, written v = u :: s ∧ kindOf u = kind v ∧ u ≠ 0x5D ∧ u ≠ 0x7D := by
  cases v with
  | undefined => exact h.here.elim
  | null => exact ⟨0x6E, _, rfl, rfl, by decide⟩
  | bool b =>
    cases b with
    | true => exact ⟨0x74, _, rfl, rfl, by decide⟩
    | false => exact ⟨0x66, _, rfl, rfl, by decide⟩
  | num x =>
    cases x with
    | finite x =>
      obtain ⟨u, s, hu, hdigit⟩ := text_head x
      obtain ⟨-, h1, h2, h3, h4, h5, h6, h7, h8⟩ := digit_or_minus hdigit
      refine ⟨u, s, hu, ?_, h7, h8⟩
      rw [kindOf, if_neg h6, if_neg h4, if_neg h5, if_neg h3, if_neg h2, if_neg h1]
      rfl
    | nan => cases h.here
    | infinity neg => cases h.here
  | str s => exact ⟨0x22, _, rfl, rfl, by decide⟩
  | arr items => exact ⟨0x5B, _, rfl, rfl, by decide⟩
  | obj fields => exact ⟨0x7B, _, rfl, rfl, by decide⟩

theorem memberText_head (f : Text × Value) : ∃ u s, memberText f = u :: s ∧ u ≠ 0x7D :=
  ⟨0x22, _, rfl, by decide⟩

theorem number_inj {x y : Number} (hx : x.isFinite = true) (hy : y.isFinite = true) {r r' : Text}
    (hr : EndsNumeral r) (hr' : EndsNumeral r') (h : x.text ++ r = y.text ++ r') :
    x.normZero = y.normZero ∧ r = r' := by
  have hread : ∀ {z : Number} {r}, z.isFinite = true → EndsNumeral r →
      readValue 1 (z.text ++ r) = some (.num z.normZero, r) := by
    intro z r hz hr
    rw [← text_normZero z]
    exact readValue_number ⟨by rw [isFinite_normZero, hz], normZero_idem z⟩ hr
  have heq := hread hx hr
  rw [h, hread hy hr'] at heq
  obtain ⟨hnum, hrest⟩ := Prod.mk.inj (Option.some.inj heq)
  exact ⟨(Value.num.inj hnum).symm, hrest.symm⟩

theorem quote_inj {s t r r' : Text} (h : quote s ++ r = quote t ++ r') : s = t ∧ r = r' := by
  have hread : ∀ s r : Text, readString (quote s ++ r).tail = some (s, r) := by
    intro s r
    rw [quote, List.cons_append, List.tail_cons, List.append_assoc]
    exact readString_escape s r
  have heq := hread s r
  rw [h, hread t r'] at heq
  obtain ⟨hs, hr⟩ := Prod.mk.inj (Option.some.inj heq)
  exact ⟨hs.symm, hr.symm⟩

theorem printed_arr (items : List Value) : printed (.arr items) = .arr (items.map printed) := by
  rw [printed, printedItems_eq]

theorem printed_obj (fields : List (Text × Value)) :
    printed (.obj fields) = .obj (fields.map fun f => (f.1, printed f.2)) := by
  have hfields : printedFields fields = fields.map fun f => (f.1, printed f.2) := by
    induction fields with
    | nil => rfl
    | cons f fs ih => rw [printedFields, ih, List.map_cons]
  rw [printed, hfields]

/-- **A printed value is read off the front of a text.** -/
theorem written_append_inj {v : Value} : Written v → ∀ {w : Value}, Written w → ∀ {r r' : Text},
    EndsNumeral r → EndsNumeral r' → written v ++ r = written w ++ r' →
    printed v = printed w ∧ r = r' := by
  have hkinds : ∀ {v w : Value} {r r' : Text}, Written v → Written w →
      written v ++ r = written w ++ r' → kind v = kind w := by
    intro v w r r' hv hw h
    obtain ⟨u, s, hu, hkind, -⟩ := written_head hv
    obtain ⟨u', s', hu', hkind', -⟩ := written_head hw
    rw [hu, hu'] at h
    rw [← hkind, ← hkind', (List.cons.inj h).1]
  refine Value.induct v ?_ ?_ ?_ ?_ ?_ ?_ ?_
  · intro hv
    exact hv.here.elim
  · intro hv w hw r r' hr hr' h
    have hkind := hkinds hv hw h
    cases w with
    | undefined => exact hw.here.elim
    | null => exact ⟨rfl, List.append_cancel_left h⟩
    | bool b => cases b <;> cases hkind
    | _ => cases hkind
  · intro b hv w hw r r' hr hr' h
    have hkind := hkinds hv hw h
    cases w with
    | undefined => exact hw.here.elim
    | bool c =>
      cases b with
      | true =>
        cases c with
        | true => exact ⟨rfl, List.append_cancel_left h⟩
        | false => cases hkind
      | false =>
        cases c with
        | true => cases hkind
        | false => exact ⟨rfl, List.append_cancel_left h⟩
    | _ => cases b <;> cases hkind
  · intro x hv w hw r r' hr hr' h
    have hkind := hkinds hv hw h
    cases w with
    | undefined => exact hw.here.elim
    | num y =>
      have hx : x.isFinite = true := hv.here
      have hy : y.isFinite = true := hw.here
      rw [written, written, stringify, stringify, if_pos hx, if_pos hy] at h
      obtain ⟨hxy, hrest⟩ := number_inj hx hy hr hr' h
      rw [printed, printed, if_pos hx, if_pos hy, hxy]
      exact ⟨rfl, hrest⟩
    | bool b => cases b <;> cases hkind
    | _ => cases hkind
  · intro s hv w hw r r' hr hr' h
    have hkind := hkinds hv hw h
    cases w with
    | undefined => exact hw.here.elim
    | str t =>
      obtain ⟨rfl, hrest⟩ := quote_inj h
      exact ⟨rfl, hrest⟩
    | bool b => cases b <;> cases hkind
    | _ => cases hkind
  · intro items ih hv w hw r r' hr hr' h
    have hkind := hkinds hv hw h
    cases w with
    | undefined => exact hw.here.elim
    | arr items' =>
      have hitems := (everywhere_arr.mp hv).2
      have hitems' := (everywhere_arr.mp hw).2
      rw [written_arr, written_arr, List.cons_append, List.cons_append, List.append_assoc,
        List.append_assoc] at h
      obtain ⟨hall, hrest⟩ := commaSep_inj (R := fun v w => printed v = printed w) endsNumeral_bracket
        (by decide)
        (fun v hv w hw _ _ hr hr' h => ih v hv (hitems v hv) (hitems' w hw) hr hr' h)
        (fun v hv => by
          obtain ⟨u, s, hu, -, hne, -⟩ := written_head
            ((List.mem_append.mp hv).elim (hitems v) (hitems' v))
          exact ⟨u, s, hu, hne⟩)
        (List.cons.inj h).2
      rw [printed_arr, printed_arr, map_eq_of_forall₂ hall fun _ _ h => h]
      exact ⟨rfl, hrest⟩
    | bool b => cases b <;> cases hkind
    | _ => cases hkind
  · intro fields ih hv w hw r r' hr hr' h
    have hkind := hkinds hv hw h
    cases w with
    | undefined => exact hw.here.elim
    | obj fields' =>
      have hfields := (everywhere_obj.mp hv).2
      have hfields' := (everywhere_obj.mp hw).2
      rw [written_obj hfields, written_obj hfields', List.cons_append, List.cons_append,
        List.append_assoc, List.append_assoc] at h
      obtain ⟨hall, hrest⟩ := commaSep_inj
        (R := fun f g : Text × Value => (f.1, printed f.2) = (g.1, printed g.2)) endsNumeral_brace
        (by decide)
        (fun f hf g hg r r' hr hr' h => by
          rw [memberText, memberText, List.append_assoc, List.append_assoc] at h
          obtain ⟨hkey, h⟩ := quote_inj h
          obtain ⟨hvalue, hrest⟩ := ih f hf (hfields f hf) (hfields' g hg) hr hr' (List.cons.inj h).2
          exact ⟨by rw [hkey, hvalue], hrest⟩)
        (fun f _ => memberText_head f) (List.cons.inj h).2
      rw [printed_obj, printed_obj, map_eq_of_forall₂ hall fun _ _ h => h]
      exact ⟨rfl, hrest⟩
    | bool b => cases b <;> cases hkind
    | _ => cases hkind

/-- **Values with one text are the same value**, up to the sign of zeros. -/
theorem stringify_inj {v w : Value} (hv : Written v) (hw : Written w) (h : stringify v = stringify w) :
    printed v = printed w := by
  rw [stringify_written hv, stringify_written hw] at h
  have heq : written v ++ [] = written w ++ [] := by rw [Option.some.inj h]
  exact (written_append_inj hv hw endsNumeral_nil endsNumeral_nil heq).1

/-! ## 3. Members in the order of their keys -/

section Arranged

variable (le : Text → Text → Bool)

/-- Members in an order of keys. -/
def inOrder {α : Type} (fields : List (Text × α)) : List (Text × α) :=
  fields.mergeSort fun f g => le f.1 g.1

mutual

/-- The members of every object in an order of keys, and zeros without their sign. -/
def arranged : Value → Value
  | .num x => .num x.normZero
  | .arr items => .arr (arrangedItems items)
  | .obj fields => .obj (inOrder le (arrangedFields fields))
  | v => v

/-- The elements of an array. -/
def arrangedItems : List Value → List Value
  | [] => []
  | v :: vs => arranged v :: arrangedItems vs

/-- The members of an object. -/
def arrangedFields : List (Text × Value) → List (Text × Value)
  | [] => []
  | (k, v) :: fs => (k, arranged v) :: arrangedFields fs

end

variable {le}

theorem inOrder_perm {α : Type} (fields : List (Text × α)) : (inOrder le fields).Perm fields :=
  List.mergeSort_perm fields _

theorem inOrder_map {α β : Type} (f : α → β) (fields : List (Text × α)) :
    inOrder le (fields.map fun g => (g.1, f g.2)) = (inOrder le fields).map fun g => (g.1, f g.2) :=
  (List.map_mergeSort (f := fun g : Text × α => (g.1, f g.2)) (l := fields)
    (r := fun g h : Text × α => le g.1 h.1) (s := fun g h : Text × β => le g.1 h.1)
    fun _ _ _ _ => rfl).symm

theorem arranged_arr (items : List Value) : arranged le (.arr items) = .arr (items.map (arranged le)) := by
  have hitems : arrangedItems le items = items.map (arranged le) := by
    induction items with
    | nil => rfl
    | cons v vs ih => rw [arrangedItems, ih, List.map_cons]
  rw [arranged, hitems]

theorem arrangedFields_eq (fields : List (Text × Value)) :
    arrangedFields le fields = fields.map fun f => (f.1, arranged le f.2) := by
  induction fields with
  | nil => rfl
  | cons f fs ih => rw [arrangedFields, ih, List.map_cons]

theorem arranged_obj (fields : List (Text × Value)) : arranged le (.obj fields)
    = .obj ((inOrder le fields).map fun f => (f.1, arranged le f.2)) := by
  rw [arranged, arrangedFields_eq, inOrder_map]

/-- An order of keys, as a comparison. -/
structure KeyOrder (le : Text → Text → Bool) : Prop where
  total : ∀ s t, (le s t || le t s) = true
  trans : ∀ r s t, le r s = true → le s t = true → le r t = true
  antisymm : ∀ s t, le s t = true → le t s = true → s = t

theorem KeyOrder.refl (h : KeyOrder le) (s : Text) : le s s = true := by
  simpa using h.total s s

theorem KeyOrder.pairwise {α : Type} (h : KeyOrder le) (fields : List (Text × α)) :
    (inOrder le fields).Pairwise fun f g => le f.1 g.1 = true :=
  List.pairwise_mergeSort (fun a b c => h.trans a.1 b.1 c.1) (fun a b => h.total a.1 b.1) fields

/-- **Members with different keys have one order**, whichever they stand in. -/
theorem KeyOrder.inOrder_eq {α : Type} (h : KeyOrder le) {fields fields' : List (Text × α)}
    (hnodup : (fields.map Prod.fst).Nodup) (hperm : fields.Perm fields')
    (hsorted : fields'.Pairwise fun f g => le f.1 g.1 = true) : inOrder le fields = fields' := by
  refine List.Perm.eq_of_pairwise ?_ (h.pairwise fields) hsorted ((inOrder_perm fields).trans hperm)
  intro f g hf hg hfg hgf
  exact List.inj_on_of_nodup_map hnodup ((inOrder_perm fields).mem_iff.mp hf) (hperm.mem_iff.mpr hg)
    (h.antisymm f.1 g.1 hfg hgf)

variable {le' : Text → Text → Bool}

/-- Where two orders agree on the keys, members stand alike in both. -/
theorem inOrder_congr {α : Type} {fields : List (Text × α)}
    (h : ∀ f ∈ fields, ∀ g ∈ fields, le f.1 g.1 = le' f.1 g.1) : inOrder le fields = inOrder le' fields := by
  have hmap := List.map_mergeSort (f := id) (l := fields) (r := fun f g => le f.1 g.1)
    (s := fun f g => le' f.1 g.1) fun f hf g hg => h f hf g hg
  simpa [inOrder] using hmap

/-- Orders in which the same keys stand alike agree on them. -/
theorem agree_of_inOrder (h : KeyOrder le) (h' : KeyOrder le') {keys : List Text}
    (hsorted : keys.Pairwise fun s t => le s t = true) (hsorted' : keys.Pairwise fun s t => le' s t = true)
    {s t : Text} (hs : s ∈ keys) (ht : t ∈ keys) : le s t = le' s t := by
  induction keys with
  | nil => cases hs
  | cons k keys ih =>
    obtain ⟨hk, hrest⟩ := List.pairwise_cons.mp hsorted
    obtain ⟨hk', hrest'⟩ := List.pairwise_cons.mp hsorted'
    rcases List.mem_cons.mp hs with rfl | hs'
    · rcases List.mem_cons.mp ht with rfl | ht'
      · rw [h.refl, h'.refl]
      · rw [hk t ht', hk' t ht']
    · rcases List.mem_cons.mp ht with rfl | ht'
      · by_cases heq : s = t
        · rw [heq, h.refl, h'.refl]
        · have hle : le s t ≠ true := fun hst => heq (h.antisymm s t hst (hk s hs'))
          have hle' : le' s t ≠ true := fun hst => heq (h'.antisymm s t hst (hk' s hs'))
          rw [Bool.eq_false_iff.mpr hle, Bool.eq_false_iff.mpr hle']
      · exact ih hrest hrest' hs' ht'

/-- One node of a value on whose keys two orders agree. -/
def AgreeNode (le le' : Text → Text → Bool) : Value → Prop
  | .obj fields => ∀ s ∈ fields.map Prod.fst, ∀ t ∈ fields.map Prod.fst, le s t = le' s t
  | _ => True

/-- Two orders agree on the keys of every object of a value. -/
def OrdersAgree (le le' : Text → Text → Bool) (v : Value) : Prop := Everywhere (AgreeNode le le') v

/-- **Two orders arrange a value alike only where they agree on the keys of each of its objects.** -/
theorem arranged_eq_iff (h : KeyOrder le) (h' : KeyOrder le') {v : Value} : Keyed v →
    (arranged le v = arranged le' v ↔ OrdersAgree le le' v) := by
  refine Value.induct v ?_ ?_ ?_ ?_ ?_ ?_ ?_
  · intro _
    exact iff_of_true rfl trivial
  · intro _
    exact iff_of_true rfl trivial
  · intro b _
    exact iff_of_true rfl trivial
  · intro x _
    exact iff_of_true rfl trivial
  · intro s _
    exact iff_of_true rfl trivial
  · intro items ih hv
    have hitems := (everywhere_arr.mp hv).2
    rw [arranged_arr, arranged_arr, Value.arr.injEq, List.map_inj_left, OrdersAgree, everywhere_arr]
    constructor
    · intro heq
      exact ⟨trivial, fun v hv => (ih v hv (hitems v hv)).mp (heq v hv)⟩
    · rintro ⟨-, hall⟩ v hv
      exact (ih v hv (hitems v hv)).mpr (hall v hv)
  · intro fields ih hv
    have hfields := (everywhere_obj.mp hv).2
    rw [arranged_obj, arranged_obj, Value.obj.injEq, OrdersAgree, everywhere_obj]
    constructor
    · intro heq
      have hkeys : (inOrder le fields).map Prod.fst = (inOrder le' fields).map Prod.fst := by
        have hfst := congrArg (List.map Prod.fst) heq
        rw [List.map_map, List.map_map] at hfst
        exact hfst
      have hmem : ∀ {s}, s ∈ fields.map Prod.fst → s ∈ (inOrder le fields).map Prod.fst := fun hs =>
        ((inOrder_perm fields).map _).mem_iff.mpr hs
      refine ⟨fun s hs t ht => agree_of_inOrder h h' (List.pairwise_map.mpr (h.pairwise fields)) ?_
        (hmem hs) (hmem ht), ?_⟩
      · rw [hkeys]
        exact List.pairwise_map.mpr (h'.pairwise fields)
      · intro f hf
        have hmem : (f.1, arranged le f.2) ∈ (inOrder le' fields).map fun g => (g.1, arranged le' g.2) := by
          rw [← heq]
          exact List.mem_map_of_mem ((inOrder_perm fields).mem_iff.mpr hf)
        obtain ⟨g, hg, hgf⟩ := List.mem_map.mp hmem
        obtain ⟨hkey, hvalue⟩ := Prod.mk.inj hgf
        obtain rfl := List.inj_on_of_nodup_map hv.nodup ((inOrder_perm fields).mem_iff.mp hg) hf hkey
        exact (ih g hf (hfields g hf)).mp hvalue.symm
    · rintro ⟨hagree, hall⟩
      rw [inOrder_congr fun f hf g hg => hagree f.1 (List.mem_map_of_mem hf) g.1 (List.mem_map_of_mem hg)]
      refine List.map_congr_left fun f hf => ?_
      have hf : f ∈ fields := (inOrder_perm fields).mem_iff.mp hf
      rw [(ih f hf (hfields f hf)).mpr (hall f hf)]

/-- Members that correspond key by key are, arranged, the same members. -/
theorem arranged_perm {fs gs : List (Text × Value)} (hf : (fs.map Prod.fst).Nodup)
    (hlength : fs.length = gs.length)
    (h : ∀ f ∈ fs, ∃ w, lookup f.1 gs = some w ∧ arranged le f.2 = arranged le w) :
    (fs.map fun f => (f.1, arranged le f.2)).Perm (gs.map fun f => (f.1, arranged le f.2)) := by
  have hnodup : (fs.map fun f => (f.1, arranged le f.2)).Nodup := by
    refine List.Nodup.of_map Prod.fst ?_
    rw [List.map_map]
    exact hf
  have hsub : (fs.map fun f => (f.1, arranged le f.2)) ⊆ gs.map fun f => (f.1, arranged le f.2) := by
    intro p hp
    obtain ⟨f, hfm, rfl⟩ := List.mem_map.mp hp
    obtain ⟨w, hw, heq⟩ := h f hfm
    exact List.mem_map.mpr ⟨(f.1, w), mem_of_lookup hw, by rw [heq]⟩
  exact (List.subperm_of_subset hnodup hsub).perm_of_length_le (by simp [hlength])

/-- **Two values are arranged alike exactly when they differ in nothing but key order and zeros.** -/
theorem arranged_eq_iff_same (h : KeyOrder le) {v : Value} : Keyed v → ∀ {w : Value}, Keyed w →
    (arranged le v = arranged le w ↔ Same v w) := by
  refine Value.induct v ?_ ?_ ?_ ?_ ?_ ?_ ?_
  · intro _ w _
    cases w <;> simp [arranged, Same]
  · intro _ w _
    cases w <;> simp [arranged, Same]
  · intro b _ w _
    cases w <;> simp [arranged, Same]
  · intro x _ w _
    cases w <;> simp [arranged, Same]
  · intro s _ w _
    cases w <;> simp [arranged, Same]
  · intro items ih hv w hw
    cases w with
    | arr items' =>
      have hitems := (everywhere_arr.mp hv).2
      have hitems' := (everywhere_arr.mp hw).2
      rw [arranged_arr, arranged_arr, same_arr, Value.arr.injEq, ← List.forall₂_eq_eq_eq,
        List.forall₂_map_left_iff, List.forall₂_map_right_iff]
      constructor
      · intro hall
        refine (forall₂_mem hall).imp fun v w hvw => ?_
        obtain ⟨heq, hv, hw⟩ := hvw
        exact (ih v hv (hitems v hv) (hitems' w hw)).mp heq
      · intro hall
        refine (forall₂_mem hall).imp fun v w hvw => ?_
        obtain ⟨hsame, hv, hw⟩ := hvw
        exact (ih v hv (hitems v hv) (hitems' w hw)).mpr hsame
    | _ => simp [arranged, Same]
  · intro fields ih hv w hw
    cases w with
    | obj fields' =>
      have hfields := (everywhere_obj.mp hv).2
      have hfields' := (everywhere_obj.mp hw).2
      rw [arranged_obj, arranged_obj, same_obj, Value.obj.injEq]
      constructor
      · intro heq
        have hlength := congrArg List.length heq
        rw [List.length_map, List.length_map, (inOrder_perm fields).length_eq,
          (inOrder_perm fields').length_eq] at hlength
        refine ⟨hlength, fun f hf => ?_⟩
        have hmem : (f.1, arranged le f.2) ∈ (inOrder le fields').map fun g => (g.1, arranged le g.2) := by
          rw [← heq]
          exact List.mem_map_of_mem ((inOrder_perm fields).mem_iff.mpr hf)
        obtain ⟨g, hg, hgf⟩ := List.mem_map.mp hmem
        obtain ⟨hkey, hvalue⟩ := Prod.mk.inj hgf
        have hg := (inOrder_perm fields').mem_iff.mp hg
        exact ⟨g.2, by rw [← hkey]; exact lookup_of_mem hw.nodup hg,
          (ih f hf (hfields f hf) (hfields' g hg)).mp hvalue.symm⟩
      · rintro ⟨hlength, hall⟩
        have hmember : ∀ f ∈ fields, ∃ w, lookup f.1 fields' = some w
            ∧ arranged le f.2 = arranged le w := by
          intro f hf
          obtain ⟨w, hw, hsame⟩ := hall f hf
          exact ⟨w, hw, (ih f hf (hfields f hf) (hfields' _ (mem_of_lookup hw))).mpr hsame⟩
        have hperm := arranged_perm hv.nodup hlength hmember
        have hnodup : ((fields.map fun f => (f.1, arranged le f.2)).map Prod.fst).Nodup := by
          rw [List.map_map]
          exact hv.nodup
        rw [← inOrder_map, ← inOrder_map]
        exact h.inOrder_eq hnodup (hperm.trans (inOrder_perm _).symm) (h.pairwise _)
    | _ => simp [arranged, Same]

end Arranged

end Value

end Ecma
