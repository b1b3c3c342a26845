/-
# The record of a healthy runtime

A session is bound to the Cloud runtime on the word of one record of the table, `RUNTIME#cloud`,
which is checked by three programs: by `session.js` when the session starts, by `runtime-v2.js` when
a run starts, and by the worker before each job.  Each recomputes the digest of the capabilities.

`session.js` digests `JSON.stringify` of a literal, whose members stand in the order in which they
are written.  The other two digest the members in order.  So the digest that the first one asks for is
not the one that the others ask for (`health_refused`).
-/
import Archon.Cloud.Contracts
import Archon.Control.Dispatch
import Archon.Control.Facts
import Archon.Runtime.Deployed

namespace Cloud

open Ecma Ecma.Value Remediation

/-! ## 1. session.js -/

/-- `HEALTH_MAX_AGE_MS` of `session.js`. -/
def SESSION_MAX_AGE_MS : Int := 90000

/-- `CORE_CANDIDATE_MAX_AGE_MS`. -/
def CORE_CANDIDATE_MAX_AGE_MS : Int := 7 * 24 * 60 * 60000

/-- `canonicalCapabilities`, and `capabilityDocument` of `runtime-v2.js`. -/
def canonicalCapabilities (capabilities : Value) : Value :=
  object (CAPABILITY_KEYS.map fun key => (key, capabilities.get (js key)))

/-- `typeof v === "boolean"`. -/
def isBoolean : Value → Bool
  | .bool _ => true
  | _ => false

/-- `v`, as a condition, where it is a boolean. -/
def isSet : Value → Bool
  | .bool b => b
  | _ => false

/-- `validateCapabilities`. -/
def validateCapabilities (value : Value) : Js String Value := do
  throwIf (!value.exactKeys CAPABILITY_KEYS) "runtime capabilities must use the exact schema"
  match CAPABILITY_KEYS.find? fun key => !isBoolean (value.get (js key)) with
  | some name => .error (.user ("runtime capability " ++ name ++ " must be boolean"))
  | none => return canonicalCapabilities value

/-- What is digested. -/
def capabilityRecord (profileId generation : Text) (capabilities : Value) : Value :=
  object [("schemaVersion", lit "archon.runtime-capabilities/v1"), ("profileId", .str profileId),
    ("generation", .str generation), ("capabilities", capabilities)]

section Session

variable (P : Platform)

/-- The digest that `session.js` and `runtime-profile.ts` make. -/
def writtenDigest (profileId generation : Text) (capabilities : Value) : Text :=
  js "sha256:" ++ P.sha256 ((stringify (capabilityRecord profileId generation capabilities)).getD [])

/-- `capabilityDigest` of `session.js`, for a profile of the two. -/
def sessionDigest (profileId generation : Text) (capabilities : Value) : Js String Text := do
  throwIf (!Runtime.isGeneration generation) "invalid runtime identity"
  return writtenDigest P profileId generation (← validateCapabilities capabilities)

/-- `stringAttribute`, where it is not empty. -/
def stringAttribute (item : Value) (key : String) : Option Text :=
  match item.get (js key) with
  | .str t => if t.isEmpty then none else some t
  | _ => none

/-- `capabilitiesAttribute`. -/
def capabilitiesAttribute (item : Value) : Option Value :=
  let value := item.get (js "capabilities")
  if value.exactKeys CAPABILITY_KEYS
      && CAPABILITY_KEYS.all (fun key => isBoolean (value.get (js key))) then
    some (canonicalCapabilities value)
  else none

/-- `healthFromItem`, of an item that there is. -/
def healthFromItem (profileId : Text) (item : Value) : Js String Value :=
  match stringAttribute item "generation", stringAttribute item "status",
    stringAttribute item "checkedAt", capabilitiesAttribute item,
    stringAttribute item "capabilityDigest" with
  | some generation, some status, some checkedAt, some capabilities, some capabilityDigest =>
    .ok (object [("profileId", .str profileId), ("generation", .str generation),
      ("status", .str status), ("checkedAt", .str checkedAt), ("capabilities", capabilities),
      ("capabilityDigest", .str capabilityDigest),
      ("sessionId", match item.get (js "sessionId") with
        | .str t => .str t
        | _ => .null)])
  | _, _, _, _, _ => .error (.user "runtime health is malformed")

/-- `validateHealth`, of what `healthFromItem` returns: the generation, the digest and the time are
strings. -/
def validateHealth (value : Value) (profileId : Text) (now : Value) (candidate : Bool) :
    Js String Value := do
  throwIf (!value.isRecord || !(value.get (js "profileId")).isText profileId)
    "invalid runtime health identity"
  let generation ← orThrow (readText Runtime.isGeneration (value.get (js "generation")))
    "invalid runtime health identity"
  let status := value.get (js "status")
  throwIf (["STARTING", "READY", "UNHEALTHY", "STOPPED"].any fun s => status.isText (js s)).not
    "invalid runtime health identity"
  let expected ← orThrow (readText isDigestText (value.get (js "capabilityDigest")))
    "invalid runtime health identity"
  let checkedAt ← Runtime.Deployed.instant P (value.get (js "checkedAt")) "checkedAt"
  let now ← Runtime.Deployed.instant P now "now"
  throwIf (now.ms < checkedAt.ms) "runtime health is from the future"
  let capabilities ← validateCapabilities (value.get (js "capabilities"))
  let d ← sessionDigest P profileId generation capabilities
  throwIf (d ≠ expected) "runtime capability digest mismatch"
  let complete := CAPABILITY_KEYS.all fun key => isSet (capabilities.get (js key))
  throwIf (status.isText (js "READY")
      && (SESSION_MAX_AGE_MS < now.ms - checkedAt.ms || !complete))
    "runtime readiness is stale or incomplete"
  throwIf (candidate && (!status.isText (js "STOPPED")
      || CORE_CANDIDATE_MAX_AGE_MS < now.ms - checkedAt.ms || !complete))
    "Core launch candidate is stale or incomplete"
  return object [("profileId", .str profileId), ("generation", .str generation), ("status", status),
    ("checkedAt", .str checkedAt.text), ("capabilities", capabilities),
    ("capabilityDigest", .str expected),
    ("sessionId", if (value.get (js "sessionId")).isNullish then .null else value.get (js "sessionId"))]

end Session

/-! ## 2. runtime-v2.js -/

/-- `HEALTH_MAX_AGE_MS` of `runtime-v2.js`. -/
def RUN_MAX_AGE_MS : Int := 2 * 60 * 1000

section Run

variable (P : Platform)

/-- `capabilityDigest` of `runtime-v2.js`. -/
def runDigest (profileId generation : Text) (capabilities : Value) : Option Text :=
  Control.digest P (capabilityRecord profileId generation (canonicalCapabilities capabilities))

/-- `healthCapabilities`, where it returns. -/
def healthCapabilities (health : Value) (sessionId : Text) (binding : Control.Binding) (now : Int) :
    Option Value :=
  let capabilities := health.get (js "capabilities")
  let owner := health.get (js "sessionId")
  match health.get (js "checkedAt"), health.get (js "generation") with
  | .str checkedAt, .str generation =>
    if (health.get (js "pk")).isText (js "RUNTIME#" ++ binding.profileId)
        && (health.get (js "sk")).isText (js "HEALTH")
        && (health.get (js "status")).isText (js "READY")
        && (binding.profileId ≠ js "core" || owner.isText sessionId)
        && (binding.profileId ≠ js "cloud" || owner.isNullish) && generation = binding.generation
        && (health.get (js "capabilityDigest")).isText binding.capabilityDigest
        && Control.instant P checkedAt
        && ((P.dateParse checkedAt).any fun checked => checked ≤ now && now - checked ≤ RUN_MAX_AGE_MS)
        && capabilities.exactKeys CAPABILITY_KEYS
        && (CAPABILITY_KEYS.all fun key => isSet (capabilities.get (js key)))
        && (runDigest P binding.profileId generation capabilities).any
          (health.get (js "capabilityDigest")).isText then
      some (canonicalCapabilities capabilities)
    else none
  | _, _ => none

end Run

/-! ## 3. The two digests -/

/-- Capabilities, each set or not. -/
def Capabilities (capabilities : Value) : Prop :=
  ∀ key ∈ CAPABILITY_KEYS, isBoolean (capabilities.get (js key)) = true

theorem isBoolean_iff {v : Value} : isBoolean v = true ↔ ∃ b, v = .bool b := by
  cases v <;> simp [isBoolean]

theorem Capabilities.plain {capabilities : Value} (h : Capabilities capabilities) :
    Control.Plain (canonicalCapabilities capabilities) := by
  refine Control.plain_object
    (by simp only [CAPABILITY_KEYS, List.map_cons, List.map_nil]; decide) ?_
  intro f hf
  obtain ⟨key, hkey, rfl⟩ := List.mem_map.mp hf
  obtain ⟨b, hb⟩ := isBoolean_iff.mp (h key hkey)
  dsimp only
  rw [hb]
  exact Control.plain_bool b

theorem Capabilities.canonical {capabilities : Value} (h : Capabilities capabilities) :
    ∃ t, Control.canonicalize (canonicalCapabilities capabilities) = some t :=
  Option.isSome_iff_exists.mp (Control.canonicalize_isSome h.plain)

theorem commaSep_cons (t : Text) (ts : List Text) : ∃ r, commaSep (t :: ts) = t ++ r := by
  cases ts with
  | nil => exact ⟨[], (List.append_nil t).symm⟩
  | cons _ _ => exact ⟨_, rfl⟩

/-- `session.js` writes the name of the schema first. -/
theorem written_text (profileId generation : Text) (capabilities : Value) :
    ∃ rest, (stringify (capabilityRecord profileId generation capabilities)).getD []
      = 0x7B :: 0x22 :: 0x73 :: rest := by
  have hquote : quote (js "schemaVersion") = 0x22 :: 0x73 :: (js "chemaVersion" ++ [0x22]) := by
    decide
  obtain ⟨r, hr⟩ := commaSep_cons
    (quote (js "schemaVersion") ++ 0x3A :: quote (js "archon.runtime-capabilities/v1"))
    (memberTexts [(js "profileId", .str profileId), (js "generation", .str generation),
      (js "capabilities", capabilities)])
  have htext : stringify (capabilityRecord profileId generation capabilities)
      = some (0x7B :: ((quote (js "schemaVersion")
        ++ 0x3A :: quote (js "archon.runtime-capabilities/v1") ++ r) ++ [0x7D])) := by
    rw [← hr]
    rfl
  rw [htext, Option.getD_some, hquote]
  exact ⟨_, rfl⟩

/-- In order, the capabilities come first. -/
theorem ordered_text (profileId generation : Text) {t : Text} {capabilities : Value}
    (h : Control.canonicalize capabilities = some t) : ∃ rest,
    Control.canonicalize (capabilityRecord profileId generation capabilities)
      = some (0x7B :: 0x22 :: 0x63 :: rest) := by
  have hquote : quote (js "capabilities") = 0x22 :: 0x63 :: (js "apabilities" ++ [0x22]) := by
    decide
  have hfields : Control.canonicalFields [(js "schemaVersion", lit "archon.runtime-capabilities/v1"),
      (js "profileId", .str profileId), (js "generation", .str generation),
      (js "capabilities", capabilities)]
      = some [(js "schemaVersion", quote (js "archon.runtime-capabilities/v1")),
        (js "profileId", quote profileId), (js "generation", quote generation),
        (js "capabilities", t)] := by
    simp only [Control.canonicalFields, h, lit, Control.canonicalize]
    rfl
  have hsort : sortKeys [(js "schemaVersion", quote (js "archon.runtime-capabilities/v1")),
        (js "profileId", quote profileId), (js "generation", quote generation),
        (js "capabilities", t)]
      = [(js "capabilities", t), (js "generation", quote generation),
        (js "profileId", quote profileId),
        (js "schemaVersion", quote (js "archon.runtime-capabilities/v1"))] := rfl
  obtain ⟨r, hr⟩ := commaSep_cons (quote (js "capabilities") ++ 0x3A :: t)
    [quote (js "generation") ++ 0x3A :: quote generation,
      quote (js "profileId") ++ 0x3A :: quote profileId,
      quote (js "schemaVersion") ++ 0x3A :: quote (js "archon.runtime-capabilities/v1")]
  have htext : Control.canonicalize (capabilityRecord profileId generation capabilities)
      = some (0x7B :: ((quote (js "capabilities") ++ 0x3A :: t ++ r) ++ [0x7D])) := by
    rw [← hr]
    refine (congrArg (Option.map _) hfields).trans ?_
    rw [Option.map_some, hsort]
    rfl
  rw [htext, hquote]
  exact ⟨_, rfl⟩

theorem canonicalCapabilities_get (capabilities : Value) {key : String}
    (h : key ∈ CAPABILITY_KEYS) :
    (canonicalCapabilities capabilities).get (js key) = capabilities.get (js key) := by
  rw [canonicalCapabilities, get_object]
  simp only [CAPABILITY_KEYS, List.mem_cons, List.not_mem_nil, or_false] at h
  rcases h with rfl | rfl | rfl | rfl | rfl <;> rfl

theorem canonicalCapabilities_idem (capabilities : Value) :
    canonicalCapabilities (canonicalCapabilities capabilities)
      = canonicalCapabilities capabilities := by
  refine congrArg object (List.map_congr_left fun key hkey => ?_)
  rw [canonicalCapabilities_get capabilities hkey]

theorem validateCapabilities_eq_ok {value v : Value} (h : validateCapabilities value = .ok v) :
    value.exactKeys CAPABILITY_KEYS = true ∧ Capabilities value ∧ v = canonicalCapabilities value := by
  rw [validateCapabilities] at h
  obtain ⟨_, hkeys, h⟩ := Ecma.bind_eq_ok.mp h
  split at h
  case h_1 => cases h
  case h_2 hfind =>
    refine ⟨by simpa using hkeys, fun key hkey => ?_, (Except.ok.inj h).symm⟩
    simpa using List.find?_eq_none.mp hfind key hkey

theorem sessionDigest_eq_ok {P : Platform} {profileId generation d : Text} {capabilities : Value}
    (h : sessionDigest P profileId generation capabilities = .ok d) :
    Capabilities capabilities
      ∧ d = writtenDigest P profileId generation (canonicalCapabilities capabilities) := by
  rw [sessionDigest] at h
  obtain ⟨_, -, h⟩ := Ecma.bind_eq_ok.mp h
  obtain ⟨v, hv, h⟩ := Ecma.bind_eq_ok.mp h
  obtain ⟨-, hcapabilities, rfl⟩ := validateCapabilities_eq_ok hv
  exact ⟨hcapabilities, (Except.ok.inj h).symm⟩

/-- An item of the Cloud runtime that `session.js` accepts. -/
structure Accepted (P : Platform) (item : Value) (generation : Text) : Prop where
  generation_eq : item.get (js "generation") = .str generation
  generated : Runtime.isGeneration generation = true
  capabilities : Capabilities (item.get (js "capabilities"))
  digest_eq : item.get (js "capabilityDigest") = .str (writtenDigest P (js "cloud") generation
    (canonicalCapabilities (item.get (js "capabilities"))))

theorem stringAttribute_eq {item : Value} {key : String} {t : Text}
    (h : stringAttribute item key = some t) : item.get (js key) = .str t := by
  unfold stringAttribute at h
  split at h
  case h_1 s hs =>
    split at h
    · cases h
    · rw [hs, Option.some.inj h]
  case h_2 => cases h

theorem capabilitiesAttribute_eq {item v : Value} (h : capabilitiesAttribute item = some v) :
    Capabilities (item.get (js "capabilities"))
      ∧ v = canonicalCapabilities (item.get (js "capabilities")) := by
  unfold capabilitiesAttribute at h
  dsimp only at h
  split at h
  case isTrue hkeys =>
    exact ⟨List.all_eq_true.mp (Bool.and_eq_true_iff.mp hkeys).2, (Option.some.inj h).symm⟩
  case isFalse => cases h

/-- What `validateHealth` says of a record that `healthFromItem` made. -/
theorem accepted_of_session {P : Platform} {item health now result : Value} {candidate : Bool}
    (hitem : healthFromItem (js "cloud") item = .ok health)
    (hvalid : validateHealth P health (js "cloud") now candidate = .ok result) :
    ∃ generation, Accepted P item generation := by
  unfold healthFromItem at hitem
  split at hitem
  case h_2 => cases hitem
  case h_1 generation status checkedAt capabilities expected hgeneration hstatus hchecked
      hcapabilities hexpected =>
    obtain rfl := Except.ok.inj hitem
    obtain ⟨hset, rfl⟩ := capabilitiesAttribute_eq hcapabilities
    rw [validateHealth] at hvalid
    obtain ⟨_, -, hvalid⟩ := Ecma.bind_eq_ok.mp hvalid
    obtain ⟨g, hg, hvalid⟩ := Ecma.bind_eq_ok.mp hvalid
    obtain ⟨_, -, hvalid⟩ := Ecma.bind_eq_ok.mp hvalid
    obtain ⟨e, he, hvalid⟩ := Ecma.bind_eq_ok.mp hvalid
    obtain ⟨_, -, hvalid⟩ := Ecma.bind_eq_ok.mp hvalid
    obtain ⟨_, -, hvalid⟩ := Ecma.bind_eq_ok.mp hvalid
    obtain ⟨_, -, hvalid⟩ := Ecma.bind_eq_ok.mp hvalid
    obtain ⟨v, hv, hvalid⟩ := Ecma.bind_eq_ok.mp hvalid
    obtain ⟨d, hd, hvalid⟩ := Ecma.bind_eq_ok.mp hvalid
    obtain ⟨_, hsame, -⟩ := Ecma.bind_eq_ok.mp hvalid
    obtain ⟨-, -, rfl⟩ := validateCapabilities_eq_ok hv
    obtain ⟨-, rfl⟩ := sessionDigest_eq_ok hd
    obtain ⟨hg, hgenerated⟩ := readText_iff.mp (orThrow_eq_ok.mp hg)
    obtain ⟨he, -⟩ := readText_iff.mp (orThrow_eq_ok.mp he)
    rw [get_object] at hg he
    obtain rfl : generation = g := Value.str.inj hg
    obtain rfl : expected = e := Value.str.inj he
    have hsame := of_not_not (of_decide_eq_false (throwIf_eq_ok.mp hsame))
    refine ⟨generation, stringAttribute_eq hgeneration, hgenerated, hset, ?_⟩
    rw [stringAttribute_eq hexpected, ← hsame, get_object]
    refine congrArg (fun v => Value.str (writtenDigest P (js "cloud") generation v)) ?_
    exact (canonicalCapabilities_idem _).trans (canonicalCapabilities_idem _)

/-- The record of the capabilities of the Cloud runtime. -/
def cloudRecord (generation : Text) (capabilities : Value) : Value :=
  capabilityRecord (js "cloud") generation (canonicalCapabilities capabilities)

/-- The two texts that are hashed are two texts. -/
theorem texts_ne {generation : Text} {capabilities : Value}
    (h : Capabilities capabilities) :
    (stringify (cloudRecord generation capabilities)).getD []
      ≠ (Control.canonicalize (cloudRecord generation capabilities)).getD [] := by
  obtain ⟨written, hwritten⟩ :=
    written_text (js "cloud") generation (canonicalCapabilities capabilities)
  obtain ⟨t, ht⟩ := h.canonical
  obtain ⟨ordered, hordered⟩ := ordered_text (js "cloud") generation ht
  rw [cloudRecord, hwritten, hordered, Option.getD_some]
  intro heq
  injection heq with _ heq
  injection heq with _ heq
  injection heq with heq _
  exact absurd heq (by decide)

/-- The digest of the record, with its members in order. -/
def orderedDigest (P : Platform) (generation : Text) (capabilities : Value) : Text :=
  js "sha256:" ++ P.sha256 ((Control.canonicalize (cloudRecord generation capabilities)).getD [])

theorem runDigest_eq {P : Platform} {generation : Text} {capabilities : Value}
    (h : Capabilities capabilities) :
    runDigest P (js "cloud") generation capabilities
      = some (orderedDigest P generation capabilities) := by
  obtain ⟨t, ht⟩ := h.canonical
  obtain ⟨ordered, hordered⟩ := ordered_text (js "cloud") generation ht
  rw [orderedDigest, cloudRecord, runDigest, Control.digest, hordered, Option.map_some,
    Option.getD_some]

/-- The record is made of texts that UTF-8 can encode. -/
theorem plain_cloudRecord {generation : Text} {capabilities : Value}
    (hgeneration : Runtime.isGeneration generation = true) (h : Capabilities capabilities) :
    Control.Plain (cloudRecord generation capabilities) := by
  refine Control.plain_object (by simp only [List.map_cons, List.map_nil]; decide) ?_
  simp only [List.forall_mem_cons, List.not_mem_nil, false_imp_iff, implies_true, and_true]
  refine ⟨Control.plain_lit _, Control.plain_lit _,
    (Control.fits_isGeneration hgeneration).encodable, h.plain⟩

theorem obj_of_isDict {v : Value} (h : (Control.stored v).isDict = true) :
    ∃ fields, v = .obj fields := by
  cases v with
  | obj fields => exact ⟨fields, rfl⟩
  | _ => simp [Control.stored, Jobs.Py.isDict] at h

/-- The worker's record, which it makes of what it reads from the table. -/
theorem capabilityDigest_stored {H : Host} {generation d : Text} {fields : List (Text × Value)}
    (hgeneration : Runtime.isGeneration generation = true) (hcapabilities : Capabilities (.obj fields))
    (h : capabilityDigest H generation (Control.stored (.obj fields)) = .ok d) :
    d = orderedDigest H.P generation (.obj fields) := by
  have hrecord : Jobs.Py.object [("schemaVersion", .lit "archon.runtime-capabilities/v1"),
      ("profileId", .str PROFILE), ("generation", .str generation),
      ("capabilities", .object (CAPABILITY_KEYS.map fun key =>
        (key, (Control.stored (.obj fields)).get key)))]
      = Control.stored (cloudRecord generation (.obj fields)) := by
    simp only [cloudRecord, capabilityRecord, canonicalCapabilities, Control.stored_object,
      get_stored, List.map_map, List.map_cons, List.map_nil, Control.stored_lit, Control.stored_str,
      Function.comp_def, PROFILE]
  rw [capabilityDigest, hrecord] at h
  obtain ⟨_, -, h⟩ := bind_eq_ok.mp h
  rw [digest, Control.digest_stored H.P (plain_cloudRecord hgeneration hcapabilities)] at h
  obtain ⟨t, ht⟩ := Option.isSome_iff_exists.mp
    (Control.canonicalize_isSome (plain_cloudRecord hgeneration hcapabilities))
  rw [Control.digest, ht, Option.map_some] at h
  rw [orderedDigest, ht, Option.getD_some]
  exact (Except.ok.inj h).symm

/-- The digests are two where the hash tells the two texts apart. -/
theorem digest_ne {P : Platform} {generation : Text} {capabilities : Value}
    (h : Capabilities capabilities)
    (hsep : P.Separates ((stringify (cloudRecord generation capabilities)).getD [])
      ((Control.canonicalize (cloudRecord generation capabilities)).getD [])) :
    writtenDigest P (js "cloud") generation (canonicalCapabilities capabilities)
      ≠ orderedDigest P generation capabilities := by
  intro heq
  exact texts_ne h (hsep (List.append_cancel_left heq))

section Refused

variable {P : Platform} {item : Value} {generation : Text}

/-- The record that `session.js` digests, and the one that the others digest, are told apart. -/
def Told (P : Platform) (item : Value) (generation : Text) : Prop :=
  P.Separates ((stringify (cloudRecord generation (item.get (js "capabilities")))).getD [])
    ((Control.canonicalize (cloudRecord generation (item.get (js "capabilities")))).getD [])

theorem Accepted.run_refused (a : Accepted P item generation) (htold : Told P item generation)
    (sessionId : Text) {binding : Control.Binding} (now : Int)
    (hprofile : binding.profileId = js "cloud") :
    healthCapabilities P item sessionId binding now = none := by
  unfold healthCapabilities
  dsimp only
  split
  case h_2 => rfl
  case h_1 checkedAt g hchecked hg =>
    obtain rfl : generation = g := Value.str.inj (a.generation_eq.symm.trans hg)
    refine if_neg fun h => ?_
    simp only [Bool.and_eq_true, decide_eq_true_eq] at h
    obtain ⟨⟨⟨⟨⟨⟨⟨-, hgeneration⟩, -⟩, -⟩, -⟩, -⟩, -⟩, hdigest⟩ := h
    rw [hprofile, runDigest_eq a.capabilities, Option.any_some, a.digest_eq] at hdigest
    exact digest_ne a.capabilities htold (of_decide_eq_true hdigest)

theorem Accepted.worker_refused {H : Host} (a : Accepted H.P item generation)
    (htold : Told H.P item generation) (job : RuntimeJob) (now : Int) (v : Jobs.Py) :
    validateRegistry H (Control.stored item) job now ≠ .ok v := by
  intro h
  rw [validateRegistry] at h
  obtain ⟨_, hmembers, h⟩ := bind_eq_ok.mp h
  obtain ⟨_, -, h⟩ := bind_eq_ok.mp h
  obtain ⟨_, -, h⟩ := bind_eq_ok.mp h
  dsimp only at h
  rw [demand_eq_ok] at hmembers
  simp only [Bool.and_eq_true] at hmembers
  obtain ⟨⟨⟨⟨⟨hexact, -⟩, -⟩, -⟩, hgeneration⟩, hdigest⟩ := hmembers
  cases item with
  | obj fields =>
    rw [get_stored, a.generation_eq, Control.stored_str] at hgeneration
    rw [get_stored, a.digest_eq, Control.stored_str] at hdigest
    have hgeneration := Jobs.Py.str.inj (Jobs.Py.isText_iff.mp hgeneration)
    have hdigest := Jobs.Py.str.inj (Jobs.Py.isText_iff.mp hdigest)
    have hcapabilities := a.capabilities
    rw [get_stored] at h
    split at h
    · cases h
    case isFalse hdict =>
      rw [Bool.not_eq_true', Bool.not_eq_false] at hdict
      obtain ⟨fields', hfields⟩ := obj_of_isDict hdict
      rw [hfields] at h hcapabilities
      obtain ⟨_, -, h⟩ := bind_eq_ok.mp h
      obtain ⟨d, hd, h⟩ := bind_eq_ok.mp h
      obtain ⟨_, hsame, -⟩ := bind_eq_ok.mp h
      have hsame := of_decide_eq_true (demand_eq_ok.mp hsame)
      rw [← hgeneration] at hd
      have hordered := capabilityDigest_stored a.generated hcapabilities hd
      refine digest_ne a.capabilities htold ?_
      rw [hdigest, ← hsame, hordered, hfields]
  | _ => cases hexact

end Refused

/-- **No record that `session.js` accepts for the Cloud runtime can be used.**  Neither the control
function, for a run of any session, nor the worker, for any job, takes the digest that it carries. -/
theorem health_refused {P : Platform} {item health now result : Value} {candidate : Bool}
    (hitem : healthFromItem (js "cloud") item = .ok health)
    (hvalid : validateHealth P health (js "cloud") now candidate = .ok result)
    (htold : ∀ generation, item.get (js "generation") = .str generation → Told P item generation) :
    (∀ (sessionId : Text) (binding : Control.Binding) (now : Int),
      binding.profileId = js "cloud" → healthCapabilities P item sessionId binding now = none)
      ∧ ∀ (H : Host), H.P = P → ∀ (job : RuntimeJob) (now : Int) (v : Jobs.Py),
        validateRegistry H (Control.stored item) job now ≠ .ok v := by
  obtain ⟨generation, a⟩ := accepted_of_session hitem hvalid
  have htold := htold generation a.generation_eq
  constructor
  · intro sessionId binding now hprofile
    exact a.run_refused htold sessionId now hprofile
  · rintro H rfl job now v
    exact a.worker_refused htold job now v

/-- A record with the digest of its own capabilities is accepted, where its times are in order and it is
complete. -/
theorem validateHealth_written (P : Platform) (profileId generation status : Text)
    (capabilities sessionId : Value) (checkedAt now : Runtime.Stamp P)
    (hgenerated : Runtime.isGeneration generation = true)
    (hstatus : (["STARTING", "READY", "UNHEALTHY", "STOPPED"].any fun s =>
      (Value.str status).isText (js s)) = true)
    (hcapabilities : validateCapabilities capabilities = .ok capabilities)
    (hcomplete : (CAPABILITY_KEYS.all fun key => isSet (capabilities.get (js key))) = true)
    (horder : checkedAt.ms ≤ now.ms) (hfresh : now.ms - checkedAt.ms ≤ SESSION_MAX_AGE_MS) :
    ∃ result, validateHealth P (object [("profileId", .str profileId), ("generation", .str generation),
        ("status", .str status), ("checkedAt", .str checkedAt.text), ("capabilities", capabilities),
        ("capabilityDigest", .str (writtenDigest P profileId generation capabilities)),
        ("sessionId", sessionId)]) profileId (.str now.text) false = .ok result := by
  have hdigest : isDigestText (writtenDigest P profileId generation capabilities) = true :=
    Control.isDigest_sha256 P _
  have hsession : sessionDigest P profileId generation capabilities
      = .ok (writtenDigest P profileId generation capabilities) := by
    rw [sessionDigest, hgenerated, hcapabilities]
    rfl
  rw [validateHealth]
  simp only [get_object]
  generalize writtenDigest P profileId generation capabilities = d at *
  refine ⟨_, Ecma.bind_eq_ok.mpr ⟨(), ?_, Ecma.bind_eq_ok.mpr ⟨generation, ?_,
    Ecma.bind_eq_ok.mpr ⟨(), ?_, Ecma.bind_eq_ok.mpr ⟨d, ?_, Ecma.bind_eq_ok.mpr ⟨checkedAt, ?_,
    Ecma.bind_eq_ok.mpr ⟨now, ?_, Ecma.bind_eq_ok.mpr ⟨(), ?_, Ecma.bind_eq_ok.mpr ⟨capabilities, ?_,
    Ecma.bind_eq_ok.mpr ⟨d, hsession, Ecma.bind_eq_ok.mpr ⟨(), ?_, Ecma.bind_eq_ok.mpr ⟨(), ?_,
    Ecma.bind_eq_ok.mpr ⟨(), ?_, rfl⟩⟩⟩⟩⟩⟩⟩⟩⟩⟩⟩⟩⟩
  · have hname : (Value.str profileId).isText profileId = true := isText_iff.mpr rfl
    exact throwIf_eq_ok.mpr (congrArg not hname)
  · exact orThrow_eq_ok.mpr (readText_iff.mpr ⟨rfl, hgenerated⟩)
  · exact throwIf_eq_ok.mpr (congrArg not hstatus)
  · exact orThrow_eq_ok.mpr (readText_iff.mpr ⟨rfl, hdigest⟩)
  · exact Runtime.readStamp_eq_ok.mpr rfl
  · exact Runtime.readStamp_eq_ok.mpr rfl
  · exact throwIf_eq_ok.mpr (decide_eq_false (by omega))
  · exact hcapabilities
  · exact throwIf_eq_ok.mpr (decide_eq_false (by simp))
  · rw [throwIf_eq_ok, hcomplete, decide_eq_false (by omega)]
    simp
  · exact throwIf_eq_ok.mpr rfl
/-! ## 4. A record of this kind -/

/-- All capabilities. -/
def sampleCapabilities : Value :=
  object [("mcpRead", .bool true), ("mcpGovernedWrite", .bool true), ("agentContextKit", .bool true),
    ("dataHubSkills", .bool true), ("analyticsAgent", .bool true)]

/-- A record with the digest that `session.js` and `runtime-profile.ts` make. -/
def sampleItem : Value :=
  object [("pk", lit "RUNTIME#cloud"), ("sk", lit "HEALTH"), ("status", lit "READY"),
    ("generation", lit "g1"),
    ("capabilityDigest", .str (writtenDigest Platform.node (js "cloud") (js "g1") sampleCapabilities)),
    ("capabilities", sampleCapabilities), ("checkedAt", lit "2026-07-14T09:00:00.000Z")]

theorem sampleItem_read : ∃ health result,
    healthFromItem (js "cloud") sampleItem = .ok health
      ∧ validateHealth Platform.node health (js "cloud") (lit "2026-07-14T09:00:30.000Z") false
        = .ok result := by
  obtain ⟨result, hresult⟩ := validateHealth_written Platform.node (js "cloud") (js "g1")
    (js "READY") sampleCapabilities .null ⟨js "2026-07-14T09:00:00.000Z", 1784019600000, by decide⟩
    ⟨js "2026-07-14T09:00:30.000Z", 1784019630000, by decide⟩ (by decide) (by decide) rfl (by decide)
    (by decide) (by decide)
  refine ⟨_, result, ?_, hresult⟩
  rfl

/-- SHA-256 tells the two texts of the record apart. -/
theorem sampleItem_told : Told Platform.node sampleItem (js "g1") := by
  have hrecord : cloudRecord (js "g1") (sampleItem.get (js "capabilities"))
      = capabilityRecord (js "cloud") (js "g1") sampleCapabilities := rfl
  have hwritten : (Platform.node.sha256 ((stringify
      (capabilityRecord (js "cloud") (js "g1") sampleCapabilities)).getD [])).head? = some 0x38 := by
    simp only [capabilityRecord, sampleCapabilities, object, lit, List.map_cons, List.map_nil]
    repeat rw [js_ofList]
    decide +kernel
  have hcanonical : (Platform.node.sha256 ((Control.canonicalize
      (capabilityRecord (js "cloud") (js "g1") sampleCapabilities)).getD [])).head? = some 0x34 := by
    simp only [capabilityRecord, sampleCapabilities, object, lit, List.map_cons, List.map_nil]
    repeat rw [js_ofList]
    decide +kernel
  rw [Told, hrecord]
  exact fun h => absurd h (Platform.sha256_ne hwritten hcanonical (by decide))

theorem sampleItem_generation {generation : Text}
    (h : sampleItem.get (js "generation") = .str generation) : generation = js "g1" :=
  (Value.str.inj h).symm

/-- Such a record is accepted. -/
theorem health_refused_sample : ∃ health result,
    validateHealth Platform.node health (js "cloud") (lit "2026-07-14T09:00:30.000Z") false = .ok result
      ∧ (∀ (sessionId : Text) (binding : Control.Binding) (now : Int),
        binding.profileId = js "cloud" →
          healthCapabilities Platform.node sampleItem sessionId binding now = none)
      ∧ ∀ (H : Host), H.P = Platform.node → ∀ (job : RuntimeJob) (now : Int) (v : Jobs.Py),
        validateRegistry H (Control.stored sampleItem) job now ≠ .ok v := by
  obtain ⟨health, result, hitem, hvalid⟩ := sampleItem_read
  refine ⟨health, result, hvalid, health_refused hitem hvalid fun generation h => ?_⟩
  rw [sampleItem_generation h]
  exact sampleItem_told

/-- The binding of a session that was started on it. -/
def sampleBinding : Control.Binding where
  schemaVersion := js "archon.runtime-binding/v1"
  profileId := js "cloud"
  generation := js "g1"
  capabilityDigest := writtenDigest Platform.node (js "cloud") (js "g1") sampleCapabilities
  resolution := js "explicit"
  boundAt := js "2026-07-14T09:00:30.000Z"
  leaseExpiresAt := js "2026-07-14T11:00:00.000Z"

/-- A session starts on a record that is ready, but the run of the session is refused. -/
theorem ready_refused : ∃ health result,
    healthFromItem (js "cloud") sampleItem = .ok health
      ∧ validateHealth Platform.node health (js "cloud") (lit "2026-07-14T09:00:30.000Z") false
        = .ok result
      ∧ sampleItem.get (js "status") = lit "READY"
      ∧ sampleItem.get (js "capabilityDigest") = .str sampleBinding.capabilityDigest
      ∧ healthCapabilities Platform.node sampleItem (js "") sampleBinding 1784019630000 = none := by
  obtain ⟨health, result, hitem, hvalid⟩ := sampleItem_read
  obtain ⟨generation, a⟩ := accepted_of_session hitem hvalid
  have htold : Told Platform.node sampleItem generation := by
    rw [sampleItem_generation a.generation_eq]
    exact sampleItem_told
  exact ⟨health, result, hitem, hvalid, rfl, rfl, a.run_refused htold _ _ rfl⟩

end Cloud
