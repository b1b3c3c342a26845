/-
# The compact JSON of Python, and its length

`json.dumps(value, ensure_ascii=False, separators=(",", ":"))`.  A text is the list of its code
points, lone surrogates included, so its length is what Python's `len` counts.  The members of a
dict keep their order, and the encoding has a value for every value.

A budget is charged with the length of an encoding.  So beside the encoder stand the equations of
its length, one for each kind of value: with them a length is a sum over the parts, and the texts
themselves are never looked at again.
-/
import Mathlib

namespace Compact

/-! ## 1. Values and their encoding -/

/-- A Python string: its code points. -/
abbrev Str := List Nat

/-- The code points of a literal. -/
def pts (s : String) : Str := s.toList.map Char.toNat

/-- A literal as the list of its characters, from which the kernel evaluates a long text. -/
theorem pts_ofList (cs : List Char) : pts (String.ofList cs) = cs.map Char.toNat := by
  rw [pts, String.toList_ofList]

/-- A JSON value; a float with its `repr`. -/
inductive Json where
  | null
  | bool (b : Bool)
  | int (n : Int)
  | float (repr : Str)
  | str (t : Str)
  | list (items : List Json)
  | dict (fields : List (Str × Json))

/-- The decimal digits of a number. -/
def numeral (n : Nat) : Str := (Nat.toDigits 10 n).map Char.toNat

/-- The numeral of an `int`. -/
def intNumeral (n : Int) : Str := if n < 0 then 0x2D :: numeral n.natAbs else numeral n.natAbs

/-- A digit of a `\u` escape. -/
def hexDigit (d : Nat) : Nat := if d < 10 then 0x30 + d else 0x57 + d

/-- What stands for a character inside a string literal. -/
def escapeChar (c : Nat) : Str :=
  if c = 0x22 then [0x5C, 0x22]
  else if c = 0x5C then [0x5C, 0x5C]
  else if c = 0x0A then [0x5C, 0x6E]
  else if c = 0x0D then [0x5C, 0x72]
  else if c = 0x09 then [0x5C, 0x74]
  else if c = 0x0C then [0x5C, 0x66]
  else if c = 0x08 then [0x5C, 0x62]
  else if c < 0x20 then [0x5C, 0x75, 0x30, 0x30, hexDigit (c / 16), hexDigit (c % 16)]
  else [c]

/-- A string literal. -/
def quote (t : Str) : Str := 0x22 :: (t.flatMap escapeChar ++ [0x22])

/-- The texts with a comma between each two. -/
def commaSep : List Str → Str
  | [] => []
  | [t] => t
  | t :: ts => t ++ 0x2C :: commaSep ts

mutual

/-- The encoding of a value. -/
def encode : Json → Str
  | .null => pts "null"
  | .bool b => if b then pts "true" else pts "false"
  | .int n => intNumeral n
  | .float repr => repr
  | .str t => quote t
  | .list items => 0x5B :: (commaSep (encodeItems items) ++ [0x5D])
  | .dict fields => 0x7B :: (commaSep (encodeFields fields) ++ [0x7D])

/-- The elements of a list. -/
def encodeItems : List Json → List Str
  | [] => []
  | v :: vs => encode v :: encodeItems vs

/-- The members of a dict. -/
def encodeFields : List (Str × Json) → List Str
  | [] => []
  | (k, v) :: fs => (quote k ++ 0x3A :: encode v) :: encodeFields fs

end

namespace Json

/-- The value under a key of a dict. -/
def get? (v : Json) (key : Str) : Option Json :=
  match v with
  | .dict fields => fields.lookup key
  | _ => none

/-- A dict literal. -/
def object (fields : List (String × Json)) : Json := .dict (fields.map fun f => (pts f.1, f.2))

/-- `None` where there is nothing. -/
def opt (f : α → Json) : Option α → Json
  | some a => f a
  | none => .null

end Json

/-! ## 2. Lengths -/

/-- The commas between so many elements. -/
def commas (n : Nat) : Nat := n - 1

theorem length_commaSep (ts : List Str) :
    (commaSep ts).length = (ts.map List.length).sum + commas ts.length := by
  unfold commas
  induction ts with
  | nil => rfl
  | cons t ts ih =>
    cases ts with
    | nil => simp [commaSep]
    | cons u us =>
      rw [commaSep, List.length_append, List.length_cons, ih]
      · simp only [List.map_cons, List.sum_cons, List.length_cons]
        omega
      · intro h
        simp at h

theorem encodeItems_eq (items : List Json) : encodeItems items = items.map encode := by
  induction items with
  | nil => rfl
  | cons v vs ih => rw [encodeItems, ih, List.map_cons]

theorem encodeFields_eq (fields : List (Str × Json)) :
    encodeFields fields = fields.map fun f => quote f.1 ++ 0x3A :: encode f.2 := by
  induction fields with
  | nil => rfl
  | cons f fs ih => rw [encodeFields, ih, List.map_cons]

/-- The characters of an encoding. -/
def size (v : Json) : Nat := (encode v).length

/-- The characters of a string literal. -/
def quoted (t : Str) : Nat := (quote t).length

theorem size_list (items : List Json) :
    size (.list items) = 2 + (items.map size).sum + commas items.length := by
  have hsum : (items.map encode).map List.length = items.map size := by
    rw [List.map_map]
    rfl
  rw [size, encode, encodeItems_eq, List.length_cons, List.length_append, length_commaSep, hsum]
  simp only [List.length_map, List.length_cons, List.length_nil]
  omega

/-- The characters of a dict: two braces, the commas, and each member with its colon. -/
theorem size_dict (fields : List (Str × Json)) :
    size (.dict fields)
      = 2 + (fields.map fun f => quoted f.1 + 1 + size f.2).sum + commas fields.length := by
  have hsum : (fields.map fun f => quote f.1 ++ 0x3A :: encode f.2).map List.length
      = fields.map fun f => quoted f.1 + 1 + size f.2 := by
    rw [List.map_map]
    refine List.map_congr_left ?_
    intro f hf
    simp only [Function.comp_apply, List.length_append, List.length_cons, quoted, size]
    omega
  rw [size, encode, encodeFields_eq, List.length_cons, List.length_append, length_commaSep, hsum]
  simp only [List.length_map, List.length_cons, List.length_nil]
  omega

@[simp] theorem size_null : size .null = 4 := rfl

@[simp] theorem size_str (t : Str) : size (.str t) = quoted t := rfl

theorem size_bool (b : Bool) : size (.bool b) = if b then 4 else 5 := by
  cases b <;> rfl

@[simp] theorem size_nat (n : Nat) : size (.int n) = (numeral n).length := by
  have h : ¬ (n : Int) < 0 := by omega
  simp [size, encode, intNumeral, h]

theorem one_le_numeral (n : Nat) : 1 ≤ (numeral n).length := by
  rw [numeral, List.length_map]
  exact Nat.length_toDigits_pos

theorem numeral_le {n d : Nat} (hd : 0 < d) (h : n < 10 ^ d) : (numeral n).length ≤ d := by
  rw [numeral, List.length_map]
  exact (Nat.length_toDigits_le_iff (by decide) hd).mpr h

/-- A character that is escaped to `k` characters, so many times over. -/
theorem quoted_replicate {c k : Nat} (h : (escapeChar c).length = k) (n : Nat) :
    quoted (List.replicate n c) = 2 + n * k := by
  have hflat : ((List.replicate n c).flatMap escapeChar).length = n * k := by
    induction n with
    | zero => simp
    | succ n ih =>
      rw [List.replicate_succ, List.flatMap_cons, List.length_append, ih, h, Nat.succ_mul]
      omega
  simp only [quoted, quote, List.length_cons, List.length_append, hflat, List.length_nil]
  omega

end Compact
