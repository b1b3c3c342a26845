/-
# Tables in Markdown

The table extension of Markdown, on lines of code units: a row is parted at its pipes, except at those
that are escaped; a table is a row, a delimiter row of as many cells, and the rows that follow until a
line that is blank or begins another block.

The dialects do not agree on which pipe is escaped.  Some pair the backslashes before it, some look at
one only.  They agree on a pipe without a backslash, and on a pipe after an odd number of them
(`Dialect`).  A text in which each pipe stands after an odd number of backslashes stays in its cell
(`whole_of_quoted`).
-/
import Archon.Ecma.Text
import Mathlib.Algebra.Group.Even
import Mathlib.Data.List.TakeWhile

namespace Markdown

open Ecma

/-! ## 1. Rows -/

abbrev pipe : UInt16 := 0x7C
abbrev backslash : UInt16 := 0x5C
abbrev newline : UInt16 := 0x0A
abbrev carriageReturn : UInt16 := 0x0D
abbrev backtick : UInt16 := 0x60

/-- What the dialects of Markdown have in common. -/
structure Dialect where
  /-- Is a pipe escaped that stands after so many backslashes? -/
  escapes : Nat → Bool
  escapes_zero : escapes 0 = false
  escapes_odd : ∀ n, ¬Even n → escapes n = true
  /-- Does a line begin another block? -/
  opensBlock : Text → Bool
  opensBlock_pipe : ∀ t, opensBlock (pipe :: t) = false

/-- The dialects that look at one backslash.  A heading, a quote, a list or a fence is told by its first
unit. -/
def Dialect.oneBackslash : Dialect where
  escapes n := decide (0 < n)
  escapes_zero := rfl
  escapes_odd n h := decide_eq_true (Nat.pos_of_ne_zero fun hzero => h (hzero ▸ ⟨0, rfl⟩))
  opensBlock t := t.head?.any (js "#>-*+~").contains
  opensBlock_pipe _ := by
    change (js "#>-*+~").contains pipe = false
    decide

/-- A unit before the first piece. -/
def addUnit (u : UInt16) : List Text → List Text
  | [] => [[u]]
  | p :: ps => (u :: p) :: ps

/-- A text before the first piece. -/
def addText (t : Text) (ps : List Text) : List Text := t.foldr addUnit ps

/-- The pieces between pipes that are not escaped.  So many backslashes stand before the text. -/
def pieces (d : Dialect) : Nat → Text → List Text
  | _, [] => [[]]
  | n, u :: t =>
    if u = pipe then
      if d.escapes n then addUnit u (pieces d 0 t) else [] :: pieces d 0 t
    else addUnit u (pieces d (if u = backslash then n + 1 else 0) t)

/-- A space or a tab. -/
def isBlank (u : UInt16) : Bool := u == 0x20 || u == 0x09

/-- A text of blanks. -/
def isBlankText (t : Text) : Bool := t.all isBlank

/-- The cells of a row: a pipe at an end of the row parts nothing. -/
def cells (d : Dialect) (line : Text) : List Text :=
  let ps := pieces d 0 line
  let ps := if ps.head?.any isBlankText then ps.tail else ps
  if ps.getLast?.any isBlankText then ps.dropLast else ps

/-- A cell of a delimiter row: hyphens, with a colon at an end or at both. -/
def isDelimiterCell (c : Text) : Bool :=
  let body := ((c.dropWhile isBlank).reverse.dropWhile isBlank).reverse
  body.contains 0x2D && body.all (fun u => u == 0x2D || u == 0x3A)
    && ((body.drop 1).dropLast).all (· == 0x2D)

/-- A delimiter row. -/
def isDelimiterRow (d : Dialect) (line : Text) : Bool :=
  !(cells d line).isEmpty && (cells d line).all isDelimiterCell

/-! ## 2. Tables -/

/-- A table. -/
structure Table where
  header : List Text
  rows : List (List Text)
deriving DecidableEq

/-- Does a line go on with a table? -/
def isRow (d : Dialect) (line : Text) : Bool := !isBlankText line && !d.opensBlock line

/-- The tables among lines. -/
def tables (d : Dialect) : List Text → List Table
  | [] => []
  | [_] => []
  | header :: delimiter :: rest =>
    if isRow d header && isDelimiterRow d delimiter
        && decide ((cells d header).length = (cells d delimiter).length) then
      ⟨cells d header, (rest.takeWhile (isRow d)).map (cells d)⟩ :: tables d (rest.dropWhile (isRow d))
    else tables d (delimiter :: rest)
termination_by ls => ls.length
decreasing_by
  · have := (List.dropWhile_sublist (l := rest) (isRow d)).length_le
    simp only [List.length_cons]
    omega
  · simp

/-- The lines of a text. -/
def linesOf : Text → List Text
  | [] => [[]]
  | u :: t =>
    if u = newline then [] :: linesOf t
    else if u = carriageReturn then
      -- before a newline it ends no line of its own
      if t.head? = some newline then linesOf t else [] :: linesOf t
    else addUnit u (linesOf t)

/-! ## 3. Texts that stay in their cell -/

section Quoted

variable {d : Dialect} {s t c : Text} {u : UInt16} {n : Nat}

/-- A text in which every pipe is escaped, in whatever dialect. -/
inductive Quoted : Text → Prop where
  | nil : Quoted []
  | plain {u : UInt16} {t : Text} (hpipe : u ≠ pipe) (hslash : u ≠ backslash) (h : Quoted t) : Quoted (u :: t)
  | pair {u : UInt16} {t : Text} (h : Quoted t) : Quoted (backslash :: u :: t)

theorem Quoted.append (hs : Quoted s) (ht : Quoted t) : Quoted (s ++ t) := by
  induction hs with
  | nil => exact ht
  | plain hpipe hslash _ ih => exact .plain hpipe hslash ih
  | pair _ ih => exact .pair ih

/-- That a text has no pipes and backslashes can be computed. -/
theorem plain_of_all (h : (s.all fun u => u != pipe && u != backslash) = true) :
    ∀ u ∈ s, u ≠ pipe ∧ u ≠ backslash := by
  intro u hu
  simpa using List.all_eq_true.mp h u hu

/-- A text without pipes and backslashes. -/
theorem quoted_of_plain (h : ∀ u ∈ s, u ≠ pipe ∧ u ≠ backslash) : Quoted s := by
  induction s with
  | nil => exact .nil
  | cons u s ih =>
    obtain ⟨hpipe, hslash⟩ := h u List.mem_cons_self
    exact .plain hpipe hslash (ih fun v hv => h v (List.mem_cons_of_mem _ hv))

theorem pieces_plain (hpipe : u ≠ pipe) (hslash : u ≠ backslash) :
    pieces d n (u :: t) = addUnit u (pieces d 0 t) := by
  rw [pieces, if_neg hpipe, if_neg hslash]

theorem pieces_backslash : pieces d n (backslash :: t) = addUnit backslash (pieces d (n + 1) t) := by
  rw [pieces, if_neg (by decide), if_pos rfl]

theorem pieces_escaped (h : d.escapes n = true) : pieces d n (pipe :: t) = addUnit pipe (pieces d 0 t) := by
  rw [pieces, if_pos rfl, if_pos h]

/-- A pipe that is not escaped parts. -/
theorem pieces_pipe : pieces d 0 (pipe :: t) = [] :: pieces d 0 t := by
  rw [pieces, if_pos rfl, d.escapes_zero]
  rfl

theorem addUnit_ne_nil (ps : List Text) : addUnit u ps ≠ [] := by
  cases ps <;> exact List.cons_ne_nil _ _

theorem pieces_ne_nil (t : Text) : pieces d n t ≠ [] := by
  cases t with
  | nil => exact List.cons_ne_nil _ _
  | cons u t =>
    rw [pieces]
    split
    · split
      · exact addUnit_ne_nil _
      · exact List.cons_ne_nil _ _
    · exact addUnit_ne_nil _

/-- **A quoted text is not parted.**  An even number of backslashes stands before each of its parts. -/
theorem pieces_quoted (hs : Quoted s) (hn : Even n) (t : Text) :
    ∃ m, Even m ∧ pieces d n (s ++ t) = addText s (pieces d m t) := by
  induction hs generalizing n with
  | nil => exact ⟨n, hn, rfl⟩
  | plain hpipe hslash _ ih =>
    obtain ⟨m, hm, hpieces⟩ := ih (n := 0) ⟨0, rfl⟩
    refine ⟨m, hm, ?_⟩
    rw [List.cons_append, pieces_plain hpipe hslash, hpieces]
    rfl
  | @pair u t' _ ih =>
    have hodd : ¬Even (n + 1) := fun h => by
      obtain ⟨k, hk⟩ := hn
      obtain ⟨l, hl⟩ := h
      omega
    rw [List.cons_append, List.cons_append, pieces_backslash]
    by_cases hpipe : u = pipe
    · subst hpipe
      obtain ⟨m, hm, hpieces⟩ := ih (n := 0) ⟨0, rfl⟩
      refine ⟨m, hm, ?_⟩
      rw [pieces_escaped (d.escapes_odd _ hodd), hpieces]
      rfl
    · by_cases hslash : u = backslash
      · subst hslash
        obtain ⟨m, hm, hpieces⟩ := ih (n := n + 1 + 1) (by
          obtain ⟨k, hk⟩ := hn
          exact ⟨k + 1, by omega⟩)
        refine ⟨m, hm, ?_⟩
        rw [pieces_backslash, hpieces]
        rfl
      · obtain ⟨m, hm, hpieces⟩ := ih (n := 0) ⟨0, rfl⟩
        refine ⟨m, hm, ?_⟩
        rw [pieces_plain hpipe hslash, hpieces]
        rfl

/-- A text that is a cell between two pipes. -/
def Whole (d : Dialect) (c : Text) : Prop := ∀ t, pieces d 0 (c ++ pipe :: t) = c :: pieces d 0 t

theorem addText_cons (p : Text) (ps : List Text) : addText s (p :: ps) = (s ++ p) :: ps := by
  induction s with
  | nil => rfl
  | cons u s ih =>
    rw [addText, List.foldr_cons]
    change addUnit u (addText s (p :: ps)) = _
    rw [ih]
    rfl

/-- **A quoted text before a blank is a cell.** -/
theorem whole_of_quoted (hs : Quoted s) : Whole d (s ++ [0x20]) := by
  intro t
  obtain ⟨m, -, hpieces⟩ := pieces_quoted (d := d) hs (n := 0) ⟨0, rfl⟩ (0x20 :: pipe :: t)
  rw [List.append_assoc]
  change pieces d 0 (s ++ 0x20 :: pipe :: t) = _
  rw [hpieces, pieces_plain (by decide) (by decide), pieces_pipe]
  exact addText_cons [0x20] _

/-- A text without pipes and backslashes is a cell. -/
theorem whole_of_plain (h : ∀ u ∈ c, u ≠ pipe ∧ u ≠ backslash) : Whole d c := by
  intro t
  induction c with
  | nil => exact pieces_pipe
  | cons u c ih =>
    obtain ⟨hpipe, hslash⟩ := h u List.mem_cons_self
    rw [List.cons_append, pieces_plain hpipe hslash, ih fun v hv => h v (List.mem_cons_of_mem _ hv)]
    rfl

/-- A text without pipes and backslashes stands before the first piece. -/
theorem exists_pieces (h : ∀ u ∈ s, u ≠ pipe ∧ u ≠ backslash) (t : Text) :
    ∃ p ps, pieces d 0 (s ++ t) = (s ++ p) :: ps := by
  induction s with
  | nil =>
    cases hpieces : pieces d 0 t with
    | nil => exact absurd hpieces (pieces_ne_nil t)
    | cons p ps => exact ⟨p, ps, hpieces⟩
  | cons u s ih =>
    obtain ⟨hpipe, hslash⟩ := h u List.mem_cons_self
    obtain ⟨p, ps, hpieces⟩ := ih fun v hv => h v (List.mem_cons_of_mem _ hv)
    refine ⟨p, ps, ?_⟩
    rw [List.cons_append, pieces_plain hpipe hslash, hpieces]
    rfl

/-- A row of cells. -/
def rowLine (cs : List Text) : Text := pipe :: cs.flatMap fun c => c ++ [pipe]

theorem pieces_cells {cs : List Text} (h : ∀ c ∈ cs, Whole d c) :
    pieces d 0 (cs.flatMap fun c => c ++ [pipe]) = cs ++ [[]] := by
  induction cs with
  | nil => rfl
  | cons c cs ih =>
    rw [List.flatMap_cons, List.append_assoc, List.singleton_append, h c List.mem_cons_self,
      ih fun c' hc' => h c' (List.mem_cons_of_mem _ hc'), List.cons_append]

/-- **The cells of a row of cells.** -/
theorem cells_rowLine {cs : List Text} (h : ∀ c ∈ cs, Whole d c) : cells d (rowLine cs) = cs := by
  rw [cells, rowLine, pieces_pipe, pieces_cells h]
  simp [isBlankText]

end Quoted

/-! ## 4. The tables of a document -/

section Document

variable {d : Dialect} {l l' : Text} {ls : List Text}

/-- A line that is not followed by a delimiter row is the header of no table. -/
theorem tables_skip (h : isDelimiterRow d l' = false) : tables d (l :: l' :: ls) = tables d (l' :: ls) := by
  rw [tables, h]
  simp

theorem tables_skip_blank (h : isBlankText l = true) : tables d (l :: l' :: ls) = tables d (l' :: ls) := by
  rw [tables, isRow, h]
  simp

/-- Of lines that are no delimiter rows only the last can be a header. -/
theorem tables_skip_all {skipped : List Text} (h : ∀ l ∈ skipped, isDelimiterRow d l = false)
    (hl : isDelimiterRow d l = false) : tables d (skipped ++ l :: ls) = tables d (l :: ls) := by
  induction skipped with
  | nil => rfl
  | cons k skipped ih =>
    have hrest := ih fun l hl => h l (List.mem_cons_of_mem _ hl)
    rw [← hrest]
    cases skipped with
    | nil => exact tables_skip hl
    | cons k' skipped => exact tables_skip (h k' (List.mem_cons_of_mem _ List.mem_cons_self))

theorem tables_one : tables d [l] = [] := by rw [tables]

/-- **A table**, with rows up to a blank line. -/
theorem tables_table {header delimiter blank : Text} {rows rest : List Text} (hheader : isRow d header = true)
    (hdelimiter : isDelimiterRow d delimiter = true)
    (hlength : (cells d header).length = (cells d delimiter).length) (hrows : ∀ l ∈ rows, isRow d l = true)
    (hblank : isBlankText blank = true) : tables d (header :: delimiter :: (rows ++ blank :: rest))
      = ⟨cells d header, rows.map (cells d)⟩ :: tables d (blank :: rest) := by
  have hend : isRow d blank = false := by rw [isRow, hblank]; rfl
  rw [tables, hheader, hdelimiter, decide_eq_true hlength, List.takeWhile_append_of_pos hrows,
    List.dropWhile_append_of_pos hrows, List.takeWhile_cons_of_neg (by simp [hend]),
    List.dropWhile_cons_of_neg (by simp [hend]), List.append_nil]
  simp

theorem mem_dropWhile {p : UInt16 → Bool} {u : UInt16} (hu : p u = false) {t : Text} (h : u ∈ t) :
    u ∈ t.dropWhile p := by
  rw [← List.takeWhile_append_dropWhile (p := p) (l := t)] at h
  rcases List.mem_append.mp h with h | h
  · rw [List.mem_takeWhile_imp h] at hu
    cases hu
  · exact h

/-- A cell with another unit than blanks, hyphens and colons delimits nothing. -/
theorem not_delimiterCell {u : UInt16} {c : Text} (h : u ∈ c) (hblank : isBlank u = false) (hhyphen : u ≠ 0x2D)
    (hcolon : u ≠ 0x3A) : isDelimiterCell c = false := by
  have hmem : u ∈ ((c.dropWhile isBlank).reverse.dropWhile isBlank).reverse :=
    List.mem_reverse.mpr (mem_dropWhile hblank (List.mem_reverse.mpr (mem_dropWhile hblank h)))
  rw [← Bool.not_eq_true, isDelimiterCell, Bool.and_eq_true, Bool.and_eq_true, List.all_eq_true]
  rintro ⟨⟨-, hall⟩, -⟩
  have hu := hall u hmem
  simp [hhyphen, hcolon] at hu

/-- **A line that begins with words is no delimiter row.** -/
theorem not_delimiterRow {u : UInt16} {s : Text} (hs : ∀ u ∈ s, u ≠ pipe ∧ u ≠ backslash) (h : u ∈ s)
    (hblank : isBlank u = false) (hhyphen : u ≠ 0x2D) (hcolon : u ≠ 0x3A) (t : Text) :
    isDelimiterRow d (s ++ t) = false := by
  obtain ⟨p, ps, hpieces⟩ := exists_pieces (d := d) hs t
  have hu : u ∈ s ++ p := List.mem_append_left _ h
  have hword : isBlankText (s ++ p) = false := by
    rw [← Bool.not_eq_true, isBlankText, List.all_eq_true]
    intro hall
    rw [hall u hu] at hblank
    cases hblank
  have hmem : s ++ p ∈ cells d (s ++ t) := by
    rw [cells, hpieces]
    simp only [List.head?_cons, Option.any_some, hword, Bool.false_eq_true, if_false]
    cases ps with
    | nil => simp [hword]
    | cons q ps =>
      split
      · exact List.mem_cons_self
      · exact List.mem_cons_self
  rw [isDelimiterRow, ← Bool.not_eq_true, Bool.and_eq_true, List.all_eq_true]
  rintro ⟨-, hall⟩
  have hcell := hall _ hmem
  rw [not_delimiterCell hu hblank hhyphen hcolon] at hcell
  cases hcell

theorem not_delimiterRow_nil : isDelimiterRow d [] = false := rfl

/-- No line ends inside of a text. -/
def OneLine (t : Text) : Prop := newline ∉ t ∧ carriageReturn ∉ t

theorem OneLine.append {s t : Text} (hs : OneLine s) (ht : OneLine t) : OneLine (s ++ t) := by
  constructor
  · intro hmem
    rcases List.mem_append.mp hmem with hmem | hmem
    · exact hs.1 hmem
    · exact ht.1 hmem
  · intro hmem
    rcases List.mem_append.mp hmem with hmem | hmem
    · exact hs.2 hmem
    · exact ht.2 hmem

theorem linesOf_append (h : OneLine l) (t : Text) : linesOf (l ++ newline :: t) = l :: linesOf t := by
  induction l with
  | nil =>
    rw [List.nil_append, linesOf, if_pos rfl]
  | cons u l ih =>
    obtain ⟨hnew, hret⟩ := h
    obtain ⟨hu, hl⟩ := List.ne_and_not_mem_of_not_mem_cons hnew
    obtain ⟨hu', hl'⟩ := List.ne_and_not_mem_of_not_mem_cons hret
    rw [List.cons_append, linesOf, if_neg (Ne.symm hu), if_neg (Ne.symm hu'), ih ⟨hl, hl'⟩]
    rfl

theorem linesOf_line (h : OneLine l) : linesOf l = [l] := by
  induction l with
  | nil => rfl
  | cons u l ih =>
    obtain ⟨hnew, hret⟩ := h
    obtain ⟨hu, hl⟩ := List.ne_and_not_mem_of_not_mem_cons hnew
    obtain ⟨hu', hl'⟩ := List.ne_and_not_mem_of_not_mem_cons hret
    rw [linesOf, if_neg (Ne.symm hu), if_neg (Ne.symm hu'), ih ⟨hl, hl'⟩]
    rfl

/-- **Lines that are joined are the lines of the text.** -/
theorem linesOf_join (h : ∀ l ∈ ls, OneLine l) (hne : ls ≠ []) : linesOf ([newline].intercalate ls) = ls := by
  induction ls with
  | nil => exact absurd rfl hne
  | cons l ls ih =>
    have hl := h l List.mem_cons_self
    cases ls with
    | nil =>
      rw [List.intercalate_singleton]
      exact linesOf_line hl
    | cons l' ls =>
      have hjoin : [newline].intercalate (l :: l' :: ls) = l ++ newline :: [newline].intercalate (l' :: ls) := by
        simp [List.intercalate]
      rw [hjoin, linesOf_append hl, ih (fun k hk => h k (List.mem_cons_of_mem _ hk)) (List.cons_ne_nil _ _)]

end Document

end Markdown
