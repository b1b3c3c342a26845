/-
# What the remediation code takes from its platform

The source calls a few functions that are not its own: the SHA-256 of Node's `crypto`, the
collation behind `localeCompare`, and `Date`.  They are the fields of `Platform`, with the little
about them that the code relies on.  Nothing is assumed about collisions here: where a result
needs two texts told apart by their hashes, it says so about those two texts (`Separates`).

`Platform.node` is the platform the code runs on, as far as the code shows it: SHA-256 itself, and
the dates of the format the code writes.

Errors stand here as well.  `Failure` is what the code itself throws, with the source's texts;
the language's own `TypeError` is the other half of `Exn`.
-/
import Archon.Ecma.Tree
import Archon.Ecma.Sha256
import Archon.Ecma.Instant

namespace Remediation

open Ecma

/-! ## 1. Errors -/

/-- `RemediationErrorCode`. -/
inductive RemediationErrorCode where
  | INVALID_ARTIFACT
  | APPROVAL_BINDING_MISMATCH
  | APPROVAL_EXPIRED
  | APPROVER_UNAUTHORIZED
  | APPROVAL_REPLAY
  | EXECUTION_IN_PROGRESS
  | JOURNAL_STATE_ERROR
deriving DecidableEq

/-- The errors of the program, by class. -/
inductive Failure where
  /-- `Error`. -/
  | error (message : String)
  /-- `CanonicalizationError`. -/
  | canonicalization (message : String)
  /-- `RemediationError`. -/
  | remediation (code : RemediationErrorCode) (message : String)
  /-- `DefinitiveMutationError`. -/
  | definitiveMutation (message : String)
  /-- `WorkerContractError`, of the worker's adapters. -/
  | workerContract (code : String) (message : String)
  /-- `WorkerLeaseError`. -/
  | workerLease (terminal : Bool)
  /-- What a service or the runtime throws, as far as a handler looks at it: its `name`
  (`UnknownError` where it is no `Error`), its HTTP status, and whether `retryable` is `true`. -/
  | service (name : String) (status : Option Nat) (retryable : Bool)
deriving DecidableEq

/-- A computation of the remediation code. -/
abbrev Run := Js Failure

/-- `throw new Error(message)`. -/
def fail {α : Type} (message : String) : Run α := .error (.user (.error message))

/-- `throw new RemediationError(code, message)`. -/
def reject {α : Type} (code : RemediationErrorCode) (message : String) : Run α :=
  .error (.user (.remediation code message))

/-- `if (condition) throw new Error(message)`. -/
def failIf (condition : Bool) (message : String) : Run Unit :=
  if condition then fail message else .ok ()

@[simp] theorem failIf_eq_ok {condition : Bool} {message : String} {u : Unit} :
    failIf condition message = .ok u ↔ condition = false := by
  cases condition <;> simp [failIf, fail]

/-- `if (condition) throw new RemediationError(code, message)`. -/
def rejectIf (condition : Bool) (code : RemediationErrorCode) (message : String) : Run Unit :=
  if condition then reject code message else .ok ()

@[simp] theorem rejectIf_eq_ok {condition : Bool} {code : RemediationErrorCode} {message : String}
    {u : Unit} : rejectIf condition code message = .ok u ↔ condition = false := by
  cases condition <;> simp [rejectIf, reject]

/-! ## 2. The platform -/

/-- A digit of a lower-case hexadecimal numeral: `[a-f0-9]`. -/
def isHexDigit (u : UInt16) : Bool := (0x30 ≤ u && u ≤ 0x39) || (0x61 ≤ u && u ≤ 0x66)

/-- The functions the code calls and does not define. -/
structure Platform where
  /-- `createHash("sha256").update(t, "utf8").digest("hex")`. -/
  sha256 : Text → Text
  sha256_length : ∀ t, (sha256 t).length = 64
  sha256_hex : ∀ t, (sha256 t).all isHexDigit = true
  /-- `a.localeCompare(b)`. -/
  localeCompare : Text → Text → Ordering
  /-- `values.sort((a, b) => a.localeCompare(b))` on a list in which something is not a string.
  Whether it throws depends on the pairs the sort happens to compare. -/
  sortMixed : List Value → Option (List Value)
  sortMixed_perm : ∀ {vs ws}, sortMixed vs = some ws → ws.Perm vs
  /-- `Date.parse(t)`, in milliseconds; `none` for NaN. -/
  dateParse : Text → Option Int
  /-- `new Date(ms).toISOString()`. -/
  toISOString : Int → Text

namespace Platform

variable (P : Platform)

/-- The hashes of the two texts differ unless the texts are one. -/
def Separates (s t : Text) : Prop := P.sha256 s = P.sha256 t → s = t

/-- Two hashes are told apart by their first digits. -/
theorem sha256_ne {P : Platform} {s t : Text} {u v : UInt16} (hs : (P.sha256 s).head? = some u)
    (ht : (P.sha256 t).head? = some v) (hne : u ≠ v) : P.sha256 s ≠ P.sha256 t := by
  intro h
  rw [h, ht] at hs
  exact hne (Option.some.inj hs).symm

/-- `Date.parse(v)`, which converts its argument to a string. -/
def parseDate (v : Value) : Run (Option Int) := do return P.dateParse (← v.toText)

@[simp] theorem parseDate_str (t : Text) : P.parseDate (.str t) = .ok (P.dateParse t) := by
  simp [parseDate]

/-- A list of strings in collation order. -/
def sortTexts (ts : List Text) : List Text :=
  ts.insertionSort fun a b => P.localeCompare a b ≠ .gt

theorem sortTexts_perm (ts : List Text) : (P.sortTexts ts).Perm ts :=
  List.perm_insertionSort _ ts

/-- `[...vs].sort((a, b) => a.localeCompare(b))`. -/
def localeSort (vs : List Value) : Run (List Value) :=
  match Value.asTexts vs with
  | some ts => .ok ((P.sortTexts ts).map .str)
  | none =>
    match P.sortMixed vs with
    | some ws => .ok ws
    | none => .error .typeError

theorem asTexts_eq_some : ∀ {vs : List Value} {ts : List Text},
    Value.asTexts vs = some ts ↔ vs = ts.map .str
  | [], ts => by cases ts <;> simp [Value.asTexts]
  | v :: vs, ts => by
    cases v with
    | str s =>
      cases ts with
      | nil => simp [Value.asTexts]
      | cons t ts =>
        simp only [Value.asTexts, Option.map_eq_some_iff, asTexts_eq_some, List.cons.injEq,
          List.map_cons, Value.str.injEq]
        constructor
        · rintro ⟨us, hvs, rfl, rfl⟩; exact ⟨rfl, hvs⟩
        · rintro ⟨rfl, hvs⟩; exact ⟨ts, hvs, rfl, rfl⟩
    | _ => cases ts <;> simp [Value.asTexts]

@[simp] theorem asTexts_map_str (ts : List Text) : Value.asTexts (ts.map .str) = some ts :=
  asTexts_eq_some.mpr rfl

@[simp] theorem localeSort_str (ts : List Text) :
    P.localeSort (ts.map .str) = .ok ((P.sortTexts ts).map .str) := by
  simp [localeSort]

/-- A sort that returns returns what it was given, in some order. -/
theorem localeSort_perm {vs ws : List Value} (h : P.localeSort vs = .ok ws) : ws.Perm vs := by
  unfold localeSort at h
  split at h
  · rename_i ts hts
    obtain rfl := asTexts_eq_some.mp hts
    obtain rfl := Except.ok.inj h
    exact (P.sortTexts_perm ts).map Value.str
  · split at h
    · rename_i us hus
      obtain rfl := Except.ok.inj h
      exact P.sortMixed_perm hus
    · exact absurd h (by simp)

/-- Node, with its collation cut down to the code unit order, which it is for texts that differ in
letters of one case. -/
def node : Platform where
  sha256 := Sha256.hex
  sha256_length := Sha256.hex_length
  sha256_hex := Sha256.hex_all
  localeCompare s t := if s = t then .eq else if codeUnitLe s t then .lt else .gt
  sortMixed _ := none
  sortMixed_perm h := by cases h
  dateParse := Instant.parseIso
  toISOString := Instant.isoText

end Platform

end Remediation
