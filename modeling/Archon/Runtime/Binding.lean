/-
# Runtime bindings

A session is bound, once, to one DataHub runtime: to its profile, to the generation and the
capability digest that were healthy at that moment, and to a lease of at most two hours.  The
binding is the part of a session that is presented again by whoever acts on it, and
`assertPinnedRuntime` compares the two.

`RuntimeBinding` is what the code's own type promises: texts where it says strings, the members
of a union where it says so.  What the validator asks of those texts beyond their type is
`RuntimeBinding.Valid`, and `validateRuntimeBinding_toValue` says that it asks for just that.  The
validator itself is run on arbitrary values.
-/
import Mathlib
import Archon.Ecma.Schema
import Archon.Remediation.Integrity

namespace Runtime

open Ecma Remediation

/-! ## 1. Errors -/

/-- `RuntimeSelectionErrorCode`, as far as the binding code uses it. -/
inductive RuntimeSelectionErrorCode where
  | INVALID_RUNTIME_BINDING
  | RUNTIME_BINDING_MISMATCH
deriving DecidableEq

/-- `RuntimeSessionError["code"]`. -/
inductive RuntimeSessionErrorCode where
  | INVALID_SESSION_ID
  | INVALID_RUNTIME_SESSION
  | INVALID_SESSION_EVENT
  | INVALID_TRANSITION
  | NON_MONOTONIC_TIME
deriving DecidableEq

/-- The errors of the two modules, by class. -/
inductive RuntimeError where
  /-- `RuntimeSelectionError`. -/
  | selection (code : RuntimeSelectionErrorCode) (message : String)
  /-- `RuntimeSessionError`. -/
  | session (code : RuntimeSessionErrorCode) (message : String)
deriving DecidableEq

/-! ## 2. Closed lists -/

/-- `RUNTIME_PROFILE_IDS`. -/
inductive RuntimeProfileId where
  | cloud
  | core
deriving DecidableEq

instance : Named RuntimeProfileId where
  all := [.cloud, .core]
  name
    | .cloud => "cloud"
    | .core => "core"
  mem_all := by rintro (_ | _) <;> decide
  name_inj := by rintro (_ | _) (_ | _) <;> decide

/-- How the profile was chosen: `"auto" | "explicit"`. -/
inductive RuntimeResolution where
  | auto
  | explicit
deriving DecidableEq

instance : Named RuntimeResolution where
  all := [.auto, .explicit]
  name
    | .auto => "auto"
    | .explicit => "explicit"
  mem_all := by rintro (_ | _) <;> decide
  name_inj := by rintro (_ | _) (_ | _) <;> decide

/-! ## 3. Forms of strings -/

/-- `[A-Za-z0-9]`. -/
def isAlphanumeric (u : UInt16) : Bool :=
  isDigit u || (0x41 ≤ u && u ≤ 0x5A) || (0x61 ≤ u && u ≤ 0x7A)

/-- `GENERATION`, `/^[A-Za-z0-9][A-Za-z0-9._-]{0,127}$/u`. -/
def isGeneration : Text → Bool
  | [] => false
  | u :: t =>
    isAlphanumeric u && decide (t.length ≤ 127)
      && t.all fun v => isAlphanumeric v || v == 0x2E || v == 0x5F || v == 0x2D

/-- The instant a text denotes, if it is exactly how that instant is printed. -/
def instantOf (P : Platform) (t : Text) : Option Int :=
  (P.dateParse t).filter fun ms => P.toISOString ms = t

/-- An instant as the checks hand it on: the text it was read from and the time, in
milliseconds, that the text denotes. -/
structure Stamp (P : Platform) where
  text : Text
  ms : Int
  exact : instantOf P text = some ms

theorem Stamp.ms_eq {P : Platform} {x y : Stamp P} (h : x.text = y.text) : x.ms = y.ms :=
  Option.some.inj (by rw [← x.exact, h, y.exact])

/-- Read a value as an instant; `onType` where it is no string, `onText` where it is one that is
not the exact print of an instant. -/
def readStamp {ε : Type} (P : Platform) (v : Value) (onType onText : ε) : Js ε (Stamp P) :=
  match v with
  | .str t =>
    match h : instantOf P t with
    | some ms => .ok ⟨t, ms, h⟩
    | none => .error (.user onText)
  | _ => .error (.user onType)

theorem readStamp_eq_ok {ε : Type} {P : Platform} {v : Value} {onType onText : ε} {x : Stamp P} :
    readStamp P v onType onText = .ok x ↔ v = .str x.text := by
  unfold readStamp
  constructor
  · intro h
    split at h
    · split at h
      · obtain rfl := Except.ok.inj h
        rfl
      · cases h
    · cases h
  · rintro rfl
    obtain ⟨t, ms, hx⟩ := x
    simp only
    split
    · rename_i ms' h
      obtain rfl : ms' = ms := Option.some.inj (h.symm.trans hx)
      rfl
    · rename_i h
      rw [hx] at h
      cases h

/-! ## 4. The binding -/

/-- `RuntimeBinding`.  Its `schemaVersion` is a constant. -/
structure RuntimeBinding where
  profileId : RuntimeProfileId
  generation : Text
  capabilityDigest : Text
  resolution : RuntimeResolution
  boundAt : Text
  leaseExpiresAt : Text
deriving DecidableEq

/-- The object. -/
def RuntimeBinding.toValue (b : RuntimeBinding) : Value := .object
  [("schemaVersion", .lit "archon.runtime-binding/v1"), ("profileId", nameValue b.profileId),
    ("generation", .str b.generation), ("capabilityDigest", .str b.capabilityDigest),
    ("resolution", nameValue b.resolution), ("boundAt", .str b.boundAt),
    ("leaseExpiresAt", .str b.leaseExpiresAt)]

/-- `RUNTIME_BINDING_KEYS`. -/
def RUNTIME_BINDING_KEYS : List String :=
  ["boundAt", "capabilityDigest", "generation", "leaseExpiresAt", "profileId", "resolution",
    "schemaVersion"]

/-- The longest lease, in milliseconds: two hours. -/
def RUNTIME_HARD_LEASE_MS : Int := 2 * 60 * 60000

/-- What `invalidBinding` throws. -/
def invalidBinding (message : String) : RuntimeError := .selection .INVALID_RUNTIME_BINDING message

section

variable (P : Platform)

/-- `bindingInstant`. -/
def bindingInstant (v : Value) (name : String) : Js RuntimeError (Stamp P) :=
  readStamp P v (invalidBinding ("runtime binding " ++ name ++ " must be a string"))
    (invalidBinding ("runtime binding " ++ name ++ " must be an exact ISO-8601 UTC instant"))

/-- `validateRuntimeBinding`. -/
def validateRuntimeBinding (binding : Value) : Js RuntimeError RuntimeBinding := do
  throwIf (!binding.isRecord) (invalidBinding "runtime binding must be an object")
  throwIf (!binding.exactKeys RUNTIME_BINDING_KEYS)
    (invalidBinding "runtime binding must use the exact public schema")
  throwIf (!(binding.get (js "schemaVersion")).isText (js "archon.runtime-binding/v1"))
    (invalidBinding "runtime binding schema is invalid")
  let profileId ← orThrow (readNamed (binding.get (js "profileId")))
    (invalidBinding "runtime binding profile is not allowlisted")
  let generation ← orThrow (readText isGeneration (binding.get (js "generation")))
    (invalidBinding "runtime binding generation is invalid")
  let capabilityDigest ← orThrow (readText isDigestText (binding.get (js "capabilityDigest")))
    (invalidBinding "runtime binding capability digest is invalid")
  let resolution ← orThrow (readNamed (binding.get (js "resolution")))
    (invalidBinding "runtime binding resolution is invalid")
  let boundAt ← bindingInstant P (binding.get (js "boundAt")) "boundAt"
  let leaseExpiresAt ← bindingInstant P (binding.get (js "leaseExpiresAt")) "leaseExpiresAt"
  throwIf (leaseExpiresAt.ms ≤ boundAt.ms || RUNTIME_HARD_LEASE_MS < leaseExpiresAt.ms - boundAt.ms)
    (invalidBinding "runtime binding lease must be positive and no longer than two hours")
  return { profileId, generation, capabilityDigest, resolution,
           boundAt := boundAt.text, leaseExpiresAt := leaseExpiresAt.text }

/-- What `assertPinnedRuntime` throws. -/
def bindingMismatch (message : String) : RuntimeError :=
  .selection .RUNTIME_BINDING_MISMATCH message

/-- `assertPinnedRuntime`. -/
def assertPinnedRuntime (expected actual : Value) : Js RuntimeError Unit :=
  match validateRuntimeBinding P expected, validateRuntimeBinding P actual with
  | .ok left, .ok right =>
    throwIf (left ≠ right) (bindingMismatch "runtime binding changed after session resolution")
  | _, _ =>
    .error (.user (bindingMismatch "runtime binding is invalid after session resolution"))

/-! ## 5. What the validator asks for -/

/-- What a binding must satisfy beyond its type. -/
structure RuntimeBinding.Valid (b : RuntimeBinding) : Prop where
  generation : isGeneration b.generation = true
  capabilityDigest : isDigestText b.capabilityDigest = true
  lease : ∃ bound expires : Stamp P, bound.text = b.boundAt ∧ expires.text = b.leaseExpiresAt ∧
    bound.ms < expires.ms ∧ expires.ms - bound.ms ≤ RUNTIME_HARD_LEASE_MS

variable {P}

namespace RuntimeBinding

variable (b : RuntimeBinding)

theorem exactKeys_toValue : b.toValue.exactKeys RUNTIME_BINDING_KEYS = true :=
  Value.exactKeys_object
    (show ["schemaVersion", "profileId", "generation", "capabilityDigest", "resolution", "boundAt",
      "leaseExpiresAt"].Perm RUNTIME_BINDING_KEYS by decide)

@[simp] theorem get_schemaVersion :
    b.toValue.get (js "schemaVersion") = .lit "archon.runtime-binding/v1" := by
  simp [toValue, List.lookup]

@[simp] theorem get_profileId : b.toValue.get (js "profileId") = nameValue b.profileId := by
  simp [toValue, List.lookup]

@[simp] theorem get_generation : b.toValue.get (js "generation") = .str b.generation := by
  simp [toValue, List.lookup]

@[simp] theorem get_capabilityDigest :
    b.toValue.get (js "capabilityDigest") = .str b.capabilityDigest := by
  simp [toValue, List.lookup]

@[simp] theorem get_resolution : b.toValue.get (js "resolution") = nameValue b.resolution := by
  simp [toValue, List.lookup]

@[simp] theorem get_boundAt : b.toValue.get (js "boundAt") = .str b.boundAt := by
  simp [toValue, List.lookup]

@[simp] theorem get_leaseExpiresAt :
    b.toValue.get (js "leaseExpiresAt") = .str b.leaseExpiresAt := by
  simp [toValue, List.lookup]

end RuntimeBinding

theorem bindingInstant_eq_ok {v : Value} {name : String} {x : Stamp P} :
    bindingInstant P v name = .ok x ↔ v = .str x.text :=
  readStamp_eq_ok

/-- What the validator returns is valid, and is what it read. -/
theorem of_validateRuntimeBinding {v : Value} {b : RuntimeBinding}
    (h : validateRuntimeBinding P v = .ok b) :
    b.Valid P ∧ v.get (js "profileId") = nameValue b.profileId ∧
      v.get (js "generation") = .str b.generation ∧
      v.get (js "capabilityDigest") = .str b.capabilityDigest ∧
      v.get (js "resolution") = nameValue b.resolution ∧ v.get (js "boundAt") = .str b.boundAt ∧
      v.get (js "leaseExpiresAt") = .str b.leaseExpiresAt := by
  unfold validateRuntimeBinding at h
  obtain ⟨-, -, h⟩ := bind_eq_ok.mp h
  obtain ⟨-, -, h⟩ := bind_eq_ok.mp h
  obtain ⟨-, -, h⟩ := bind_eq_ok.mp h
  obtain ⟨profileId, hprof, h⟩ := bind_eq_ok.mp h
  obtain ⟨generation, hgen, h⟩ := bind_eq_ok.mp h
  obtain ⟨capabilityDigest, hdig, h⟩ := bind_eq_ok.mp h
  obtain ⟨resolution, hres, h⟩ := bind_eq_ok.mp h
  obtain ⟨boundAt, hbound, h⟩ := bind_eq_ok.mp h
  obtain ⟨leaseExpiresAt, hexpires, h⟩ := bind_eq_ok.mp h
  obtain ⟨_, hlease, h⟩ := bind_eq_ok.mp h
  rw [throwIf_eq_ok, Bool.or_eq_false_iff, decide_eq_false_iff_not, decide_eq_false_iff_not,
    not_le, not_lt] at hlease
  obtain ⟨hgen, hgen'⟩ := readText_iff.mp (orThrow_eq_ok.mp hgen)
  obtain ⟨hdig, hdig'⟩ := readText_iff.mp (orThrow_eq_ok.mp hdig)
  obtain rfl := Except.ok.inj h
  exact ⟨⟨hgen', hdig', boundAt, leaseExpiresAt, rfl, rfl, hlease.1, hlease.2⟩,
    readNamed_iff.mp (orThrow_eq_ok.mp hprof), hgen, hdig,
    readNamed_iff.mp (orThrow_eq_ok.mp hres), bindingInstant_eq_ok.mp hbound,
    bindingInstant_eq_ok.mp hexpires⟩

/-- A valid binding passes, and comes back as it was. -/
theorem validateRuntimeBinding_toValue {b : RuntimeBinding} (h : b.Valid P) :
    validateRuntimeBinding P b.toValue = .ok b := by
  obtain ⟨hgen, hdig, bound, expires, hbound, hexpires, hlt, hle⟩ := h
  have hkeys := b.exactKeys_toValue
  have hboundAt : bindingInstant P (.str b.boundAt) "boundAt" = .ok bound :=
    bindingInstant_eq_ok.mpr (by rw [hbound])
  have hexpiresAt : bindingInstant P (.str b.leaseExpiresAt) "leaseExpiresAt" = .ok expires :=
    bindingInstant_eq_ok.mpr (by rw [hexpires])
  have hlease : (decide (expires.ms ≤ bound.ms)
      || decide (RUNTIME_HARD_LEASE_MS < expires.ms - bound.ms)) = false := by
    simp [hlt, hle]
  simp [validateRuntimeBinding, hkeys, Value.isRecord_of_exactKeys hkeys, readText_str hgen,
    readText_str hdig, hboundAt, hexpiresAt, hlease, hbound, hexpires]

theorem validateRuntimeBinding_toValue_iff {b c : RuntimeBinding} :
    validateRuntimeBinding P b.toValue = .ok c ↔ b.Valid P ∧ c = b := by
  constructor
  · intro h
    obtain ⟨hvalid, hprof, hgen, hdig, hres, hbound, hexpires⟩ := of_validateRuntimeBinding h
    have hcb : c = b := by
      cases b
      cases c
      simp_all
    exact ⟨hcb ▸ hvalid, hcb⟩
  · rintro ⟨hb, rfl⟩
    exact validateRuntimeBinding_toValue hb

/-- Two bindings of the right type are pinned to each other when they are one valid binding. -/
theorem assertPinnedRuntime_toValue {b c : RuntimeBinding} {u : Unit} :
    assertPinnedRuntime P b.toValue c.toValue = .ok u ↔ b.Valid P ∧ b = c := by
  unfold assertPinnedRuntime
  constructor
  · intro h
    split at h
    · rename_i left right hleft hright
      obtain ⟨hb, rfl⟩ := validateRuntimeBinding_toValue_iff.mp hleft
      obtain ⟨-, rfl⟩ := validateRuntimeBinding_toValue_iff.mp hright
      exact ⟨hb, by simpa using h⟩
    · cases h
  · rintro ⟨hb, rfl⟩
    rw [validateRuntimeBinding_toValue hb]
    simp

end

end Runtime
