/-
# The consistency audit

A catalog holds facts about one entity from many sources.  `auditConsistency` groups the facts by
the entity they describe and reports an attribute whose values fall into two sides or more, and an
entity that is referred to and not there.

Values are divided greedily: a fact joins the first side whose first value its own value agrees with.
Agreement is equality for texts, and for numbers up to a tolerance, so it is no equivalence, and
which sides there are can depend on the order in which the facts are given (`findings_perm_iff`).
-/
import Archon.Ecma.Groups
import Archon.Ecma.Json
import Archon.Ecma.Tree

namespace Audit

open Ecma

/-! ## 1. Numbers -/

/-- A finite double, as a rational. -/
def signed (x : Binary64) : ℚ := if x.neg then -x.magnitude else x.magnitude

/-- `Math.abs(a - b)`: the difference is rounded, without its sign. -/
def distance : Number → Number → Number
  | .finite x, .finite y => Binary64.ofMagnitude false |signed x - signed y|
  | .nan, _ | _, .nan => .nan
  | .infinity s, .infinity t => if s = t then .nan else .infinity false
  | .infinity _, .finite _ | .finite _, .infinity _ => .infinity false

/-- `x <= y`. -/
def atMost : Number → Number → Bool
  | .nan, _ | _, .nan => false
  | .infinity neg, .infinity neg' => neg || !neg'
  | .infinity neg, .finite _ => neg
  | .finite _, .infinity neg => !neg
  | .finite x, .finite y => signed x ≤ signed y

theorem distance_comm (a b : Number) : distance a b = distance b a := by
  cases a with
  | nan => cases b <;> rfl
  | infinity s =>
    cases b with
    | infinity t => simp only [distance, eq_comm]
    | _ => rfl
  | finite x =>
    cases b with
    | finite y => rw [distance, distance, abs_sub_comm]
    | _ => rfl

/-! ## 2. Facts -/

/-- An object of attributes: each key stands once. -/
structure Metadata where
  fields : List (Text × Value)
  keys_nodup : (fields.map Prod.fst).Nodup

/-- `AuditFact`, as far as the audit reads it. -/
structure AuditFact where
  id : Text
  kind : Text
  source : Text
  sourceRef : Option Text
  metadata : Option Metadata
  createdAt : Text
  importance : Option Number := none

namespace AuditFact

/-- `m.metadata?.[key]`. -/
def get (m : AuditFact) (key : String) : Value :=
  match m.metadata with
  | some md => (lookup (js key) md.fields).getD .undefined
  | none => .undefined

/-- `subjectKey`. -/
def subjectKey (m : AuditFact) : Option Text :=
  let originating := m.sourceRef.filter fun t => !t.isEmpty
  match m.get "record" with
  | .str t => if t.isEmpty then originating else some t
  | .num x => some x.text
  | _ => originating

end AuditFact

/-- `RESERVED_KEYS`. -/
def RESERVED_KEYS : List Text := [js "record", js "refs"]

/-- A number, a string or a boolean. -/
def isScalar : Value → Bool
  | .num _ | .str _ | .bool _ => true
  | _ => false

/-- `attributesOf`. -/
def attributesOf (m : AuditFact) : List (Text × Value) :=
  match m.metadata with
  | some md => md.fields.filter fun f => !RESERVED_KEYS.contains f.1 && isScalar f.2
  | none => []

/-- `AuditOptions`, as far as they decide what is reported. -/
structure AuditOptions where
  numericTolerance : Option Number
  requireDistinctSources : Bool

/-- One half. -/
def half : Number := .finite ⟨false, 2 ^ 52, -53, by decide⟩

/-- The tolerance. -/
def AuditOptions.tolerance (opts : AuditOptions) : Number := opts.numericTolerance.getD half

/-- `String(a) === String(b)`. -/
def sameText (a b : Value) : Bool :=
  match (a.toText : Js Empty Text), (b.toText : Js Empty Text) with
  | .ok s, .ok t => s = t
  | _, _ => false

/-- `valuesAgree`. -/
def valuesAgree (tol : Number) (a b : Value) : Bool :=
  match a, b with
  | .num x, .num y => atMost (distance x y) tol
  | .num _, _ | _, .num _ => sameText a b
  | _, _ => stringify a = stringify b

theorem sameText_comm (a b : Value) : sameText a b = sameText b a := by
  unfold sameText
  cases (a.toText : Js Empty Text) with
  | error e => cases (b.toText : Js Empty Text) <;> rfl
  | ok s =>
    cases (b.toText : Js Empty Text) with
    | error e => rfl
    | ok t => simp only [eq_comm]

theorem valuesAgree_comm (tol : Number) (a b : Value) : valuesAgree tol a b = valuesAgree tol b a := by
  cases a with
  | num x =>
    cases b with
    | num y => rw [valuesAgree, valuesAgree, distance_comm]
    | _ => simp only [valuesAgree, sameText_comm (.num x)]
  | _ =>
    cases b with
    | num y => simp only [valuesAgree, sameText_comm (.num y)]
    | _ => simp only [valuesAgree, eq_comm]

/-! ## 3. Contradictions -/

/-- A fact with the value it gives to an attribute. -/
structure Carrier where
  m : AuditFact
  value : Value

/-- The facts that have a subject, by it. -/
def bySubject (facts : List AuditFact) : List (Text × AuditFact) :=
  facts.filterMap fun m => m.subjectKey.map fun s => (s, m)

/-- The values that facts give, by attribute. -/
def byAttr (group : List AuditFact) : List (Text × Carrier) :=
  group.flatMap fun m => (attributesOf m).map fun f => (f.1, ⟨m, f.2⟩)

/-- A side of a contradiction, with its first carrier. -/
abbrev Side := Carrier × List Carrier

/-- A contradiction: the sides are the values with the facts that assert them. -/
structure Contradiction where
  subject : Text
  attr : Text
  sides : List Side

/-- A referenced entity that is not there, and who refers to it. -/
structure Absence where
  subject : Text
  referencedBy : List (Text × Text)

/-- `ConsistencyReport`. -/
structure ConsistencyReport where
  audited : Nat
  subjects : Nat
  contradictions : List Contradiction
  absences : List Absence
  ok : Bool

section Report

variable (opts : AuditOptions)

/-- Do the values of two carriers agree? -/
def agree (c d : Carrier) : Bool := valuesAgree opts.tolerance c.value d.value

/-- The distinct sources of carriers. -/
def sourcesOf (carriers : List Carrier) : List Text := (carriers.map fun c => c.m.source).dedup

/-- The contradiction on an attribute of a subject, if there is one. -/
def contradictionOf (subject attr : Text) (carriers : List Carrier) : Option Contradiction :=
  let distinct := cluster (agree opts) carriers
  if carriers.length < 2 then none
  else if distinct.length < 2 then none
  else if opts.requireDistinctSources && decide ((sourcesOf carriers).length < 2) then none
  else some ⟨subject, attr, distinct⟩

/-- The contradictions of a subject. -/
def contradictionsOf (subject : Text) (group : List AuditFact) : List Contradiction :=
  if group.length < 2 then []
  else (groups (byAttr group)).filterMap fun g => contradictionOf opts subject g.1 g.2

/-- By subject, then by attribute. -/
def before (c d : Contradiction) : Bool :=
  if c.subject = d.subject then codeUnitLe c.attr d.attr
  else codeUnitLe c.subject d.subject

/-- The references of a fact. -/
def refsOf (m : AuditFact) : List Text :=
  match m.get "refs" with
  | .arr items => items.filterMap fun
    | .num x => some x.text
    | .str t => if t.isEmpty then none else some t
    | _ => none
  | _ => []

/-- The references to entities that are not there, with who refers to them. -/
def missing (facts : List AuditFact) : List (Text × (Text × Text)) :=
  let present := (bySubject facts).map Prod.fst
  facts.flatMap fun m =>
    ((refsOf m).filter fun r => !present.contains r).map fun r => (r, (m.id, m.source))

/-- `auditConsistency`. -/
def auditConsistency (facts : List AuditFact) : ConsistencyReport :=
  let subjects := groups (bySubject facts)
  let contradictions := (subjects.flatMap fun g => contradictionsOf opts g.1 g.2).insertionSort
    fun c d => before c d = true
  let absences := ((groups (missing facts)).map fun g => (⟨g.1, g.2⟩ : Absence)).insertionSort
    fun a b => codeUnitLe a.subject b.subject = true
  { audited := facts.length
    subjects := subjects.length
    contradictions
    absences
    ok := contradictions.isEmpty && absences.isEmpty }

end Report

end Audit
