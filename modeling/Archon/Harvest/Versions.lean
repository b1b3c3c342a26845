/-
# The versions of an aspect

`readAspectVersionHistory` of `version-history-reader.ts` asks for version 0, which is the current one,
and then for the retained versions until one is absent.  Each URL is asked for once; what comes back is
the server's, and may be anything.  A history is returned only if every version up to the first absent
one was there (`history_complete`).

`dedupeAndOrder` sorts by the time of observation where two entries have one, and by the number of the
version elsewhere.  An entry without a time can stand between two whose times and numbers disagree, and
then nothing is in order (`chronological_iff`).
-/
import Archon.Audit.History
import Archon.Ecma.Sorting
import Archon.Harvest.Pages

namespace Harvest

open Ecma Ecma.Value Audit

/-! ## 1. Requests -/

/-- `VersionHistoryReadErrorCode`. -/
inductive VersionHistoryReadErrorCode where
  | httpError
  | invalidResponse
  | historyLimitExceeded
deriving DecidableEq

/-- What the reader throws: a `VersionHistoryReadError`, a `RangeError`, a `URIError`, or what a request
is rejected with. -/
inductive ReadThrown where
  | read (code : VersionHistoryReadErrorCode) (message url : Text) (status : Option ℕ)
  | rangeError (message : Text)
  | uriError
  | rejected (reason : Text)
deriving DecidableEq

/-- A read. -/
abbrev Read := Except ReadThrown

/-- A letter, a digit or a mark that a URL component keeps. -/
def isUnreserved (u : UInt16) : Bool :=
  (0x41 ≤ u && u ≤ 0x5A) || (0x61 ≤ u && u ≤ 0x7A) || (0x30 ≤ u && u ≤ 0x39) ||
    (js "-_.!~*'()").contains u

/-- A hexadecimal digit. -/
def hexDigit (n : ℕ) : UInt16 := .ofNat (if n < 10 then 0x30 + n else 0x37 + n)

/-- `%XX`. -/
def escapedByte (b : UInt8) : Text := [0x25, hexDigit (b.toNat / 16), hexDigit (b.toNat % 16)]

/-- A code point in a URL component, unless it is half of a pair. -/
def encodeCodePoint : Text → Option Text
  | [u] =>
    if isUnreserved u then some [u]
    else if isHigh u || isLow u then none
    else some ((utf8 [u]).flatMap escapedByte)
  | pair => some ((utf8 pair).flatMap escapedByte)

/-- `encodeURIComponent(t)`. -/
def encodeURIComponent (t : Text) : Read Text :=
  match (codePoints t).mapM encodeCodePoint with
  | some parts => .ok parts.flatten
  | none => .error .uriError

/-- The name of an aspect. -/
def aspectName : MutableAspectName → Text
  | .ownership => js "ownership"
  | .schemaMetadata => js "schemaMetadata"
  | .domains => js "domains"
  | .deprecation => js "deprecation"

/-- `gmsUrl.replace(/\/+$/, "")`. -/
def withoutSlashes (gmsUrl : Text) : Text := (gmsUrl.reverse.dropWhile (· == 0x2F)).reverse

/-- `endpoint`. -/
def endpoint (gmsUrl urn : Text) (aspect : MutableAspectName) (version : ℕ) : Read Text := do
  let component ← encodeURIComponent urn
  return withoutSlashes gmsUrl ++ js "/openapi/v3/entity/dataset/" ++ component ++ js "/"
    ++ aspectName aspect ++ js "?systemMetadata=true&version=" ++ decimalText version

/-! ## 2. Replies -/

/-- A response; the body is absent where it is not JSON. -/
structure Response where
  status : ℕ
  body : Option Value

/-- `response.ok`. -/
def Response.ok (response : Response) : Bool := decide (200 ≤ response.status ∧ response.status ≤ 299)

/-- An object that is not an array, or `null`. -/
def isRecordOrNull : Value → Bool
  | .null | .obj _ => true
  | _ => false

/-- `isDirectAspectEnvelope`. -/
def isDirectAspectEnvelope : Value → Bool
  | .obj fields =>
    (lookup (js "value") fields).isSome && isRecordOrNull ((Value.obj fields).get (js "value")) &&
      match (Value.obj fields).get (js "systemMetadata") with
      | .undefined => true
      | metadata => isRecordOrNull metadata
  | _ => false

/-- `readSlot`: the entry, or nothing if it is absent. -/
def readSlot (reply : Except Text Response) (url aspect : Text) : Read (Option DhVersionedAspect) :=
  match reply with
  | .error reason => .error (.rejected reason)
  | .ok response =>
    if response.status = 404 then .ok none
    else if !response.ok then
      .error (.read .httpError (js "DataHub version-history read failed with HTTP "
        ++ decimalText response.status) url (some response.status))
    else
      match response.body with
      | none => .error (.read .invalidResponse
          (js "DataHub version-history response was not valid JSON") url (some response.status))
      | some body =>
        if isDirectAspectEnvelope body then
          .ok (some ⟨body.get (js "value"), body.get (js "systemMetadata")⟩)
        else .error (.read .invalidResponse (js "DataHub direct " ++ aspect
          ++ js " response was not a valid GenericAspectV3 envelope") url (some response.status))

/-- A server: what the request of that number for that URL is answered with. -/
abbrev AspectServer := ℕ → Text → Except Text Response

/-- What comes of the request for a version: it is the request of that number. -/
def readVersion (server : AspectServer) (gmsUrl urn : Text) (aspect : MutableAspectName) (slot : ℕ) :
    Read (Option DhVersionedAspect) := do
  let url ← endpoint gmsUrl urn aspect slot
  readSlot (server slot url) url (aspectName aspect)

/-! ## 3. Order -/

/-- `LocatedVersion`. -/
structure LocatedVersion where
  slot : ℕ
  entry : DhVersionedAspect

/-- The text that tells entries apart. -/
def entryKey (entry : DhVersionedAspect) : Option Text :=
  stringify (object [("value", entry.value),
    ("systemMetadata", if entry.systemMetadata.isNullish then .null else entry.systemMetadata)])

/-- `entry.systemMetadata?.lastObserved`, if it is a number. -/
def lastObserved (entry : DhVersionedAspect) : Option Number :=
  match entry.systemMetadata.get (js "lastObserved") with
  | .num x => some x
  | _ => none

/-- The sign of `b.slot - a.slot`. -/
def compareSlots (a b : LocatedVersion) : Ordering := compare b.slot a.slot

/-- The sign of `s - t`, of different numbers. -/
def compareTimes (s t : Number) : Ordering := if atMost s t then .lt else if atMost t s then .gt else .eq

/-- The comparator. -/
def compareVersions (a b : LocatedVersion) : Ordering :=
  match lastObserved a.entry, lastObserved b.entry with
  | some s, some t => if s.strictEq t then compareSlots a b else compareTimes s t
  | _, _ => compareSlots a b

/-- The entries that are the first with their key. -/
def uniqueVersions (located : List LocatedVersion) : List LocatedVersion :=
  firstsBy (fun v => entryKey v.entry) [] located

/-- `dedupeAndOrder`. -/
def dedupeAndOrder (S : Sorter LocatedVersion) (located : List LocatedVersion) : List DhVersionedAspect :=
  (S.sort compareVersions (uniqueVersions located)).map LocatedVersion.entry

/-! ## 4. readAspectVersionHistory -/

/-- `VersionHistoryReadOptions`, as far as they decide what is read. -/
structure VersionHistoryReadOptions where
  maxHistoricalVersions : Option Number := none
  requestTimeoutMs : Option Number := none

/-- The limits of a read: how many versions may be retained, and its text. -/
def VersionHistoryReadOptions.limit (options : VersionHistoryReadOptions) : Read (ℕ × Text) :=
  let maxHistoricalVersions := options.maxHistoricalVersions.getD (.ofNat 50)
  let requestTimeoutMs := options.requestTimeoutMs.getD (.ofNat 10000)
  match integerOf (.num maxHistoricalVersions) with
  | some (.ofNat (n + 1)) =>
    if requestTimeoutMs.isFinite && requestTimeoutMs.exceeds 0 then
      .ok (n + 1, maxHistoricalVersions.text)
    else .error (.rangeError (js "requestTimeoutMs must be positive"))
  | _ => .error (.rangeError (js "maxHistoricalVersions must be a positive integer"))

/-- `HISTORY_LIMIT_EXCEEDED`. -/
def limitExceeded (limitText aspect url : Text) : ReadThrown :=
  .read .historyLimitExceeded (js "DataHub retained more than " ++ limitText ++ js " " ++ aspect
    ++ js " versions; refusing a partial audit") url none

/-- The loop, for at most so many rounds from a slot on. -/
def readHistorical (server : AspectServer) (gmsUrl urn : Text) (aspect : MutableAspectName) (limit : ℕ)
    (limitText : Text) : (rounds slot : ℕ) → List LocatedVersion → Read (List LocatedVersion)
  | 0, _, located => .ok located
  | rounds + 1, slot, located => do
    let url ← endpoint gmsUrl urn aspect slot
    match ← readSlot (server slot url) url (aspectName aspect) with
    | none => return located
    | some entry =>
      if limit < slot then .error (limitExceeded limitText (aspectName aspect) url)
      else
        readHistorical server gmsUrl urn aspect limit limitText rounds (slot + 1)
          (located ++ [⟨slot, entry⟩])

/-- `readAspectVersionHistory`. -/
def readAspectVersionHistory (S : Sorter LocatedVersion) (server : AspectServer) (gmsUrl urn : Text)
    (aspect : MutableAspectName) (options : VersionHistoryReadOptions) : Read (List DhVersionedAspect) := do
  let (limit, limitText) ← options.limit
  match ← readVersion server gmsUrl urn aspect 0 with
  | none => return []
  | some current =>
    let located ← readHistorical server gmsUrl urn aspect limit limitText (limit + 1) 1 [⟨0, current⟩]
    return dedupeAndOrder S located

/-! ## 5. What a history is -/

section History

variable {S : Sorter LocatedVersion} {server : AspectServer} {gmsUrl urn limitText : Text}
  {aspect : MutableAspectName} {options : VersionHistoryReadOptions} {limit : ℕ}
  {history entries : List DhVersionedAspect}

/-- The versions that were there: the next one was absent. -/
structure Retained (server : AspectServer) (gmsUrl urn : Text) (aspect : MutableAspectName)
    (entries : List DhVersionedAspect) : Prop where
  present : ∀ slot, (h : slot < entries.length) →
    readVersion server gmsUrl urn aspect slot = .ok (some entries[slot])
  absent : readVersion server gmsUrl urn aspect entries.length = .ok none

/-- A list of the entries, each once. -/
structure Deduplicates (entries history : List DhVersionedAspect) : Prop where
  nodup : (history.map entryKey).Nodup
  sound : ∀ entry ∈ history, entry ∈ entries
  complete : ∀ entry ∈ entries, ∃ entry' ∈ history, entryKey entry' = entryKey entry

/-- The entries in their slots. -/
def locate (entries : List DhVersionedAspect) : List LocatedVersion := entries.mapIdx LocatedVersion.mk

theorem map_entry_locate (entries : List DhVersionedAspect) :
    (locate entries).map LocatedVersion.entry = entries := by
  refine List.ext_getElem (by simp [locate]) fun slot hslot hslot' => ?_
  simp [locate]

theorem locate_append (entries : List DhVersionedAspect) (entry : DhVersionedAspect) :
    locate (entries ++ [entry]) = locate entries ++ [⟨entries.length, entry⟩] := by
  simp [locate, List.mapIdx_append]

/-- The order loses nothing and repeats nothing. -/
theorem dedupeAndOrder_deduplicates (S : Sorter LocatedVersion) (located : List LocatedVersion) :
    Deduplicates (located.map LocatedVersion.entry) (dedupeAndOrder S located) := by
  have hperm : (dedupeAndOrder S located).Perm ((uniqueVersions located).map LocatedVersion.entry) :=
    (S.perm _ _).map _
  refine ⟨?_, fun entry hentry => ?_, fun entry hentry => ?_⟩
  · rw [(hperm.map entryKey).nodup_iff, List.map_map]
    exact firstsBy_nodup [] located
  · obtain ⟨v, hv, rfl⟩ := List.mem_map.mp (hperm.mem_iff.mp hentry)
    exact List.mem_map_of_mem ((firstsBy_sublist [] located).subset hv)
  · obtain ⟨v, hv, rfl⟩ := List.mem_map.mp hentry
    obtain ⟨w, hw, hkey⟩ : ∃ w ∈ uniqueVersions located, entryKey w.entry = entryKey v.entry :=
      exists_firstsBy [] hv List.not_mem_nil
    exact ⟨w.entry, hperm.mem_iff.mpr (List.mem_map_of_mem hw), hkey⟩

/-- What the loop returns, all versions before the slot being there. -/
theorem readHistorical_eq_ok {rounds slot : ℕ} {located : List LocatedVersion}
    (hrounds : slot + rounds = limit + 2) (hslot : slot ≤ limit + 1) (hlength : entries.length = slot)
    (hpresent : ∀ j, (h : j < entries.length) →
      readVersion server gmsUrl urn aspect j = .ok (some entries[j]))
    (h : readHistorical server gmsUrl urn aspect limit limitText rounds slot (locate entries)
      = .ok located) :
    ∃ retained, Retained server gmsUrl urn aspect retained ∧ located = locate retained := by
  induction rounds generalizing slot entries with
  | zero => omega
  | succ rounds ih =>
    rw [readHistorical] at h
    cases hurl : endpoint gmsUrl urn aspect slot with
    | error e =>
      rw [hurl] at h
      cases h
    | ok url =>
      cases hread : readSlot (server slot url) url (aspectName aspect) with
      | error e =>
        simp only [hurl, hread, bind, Except.bind] at h
        cases h
      | ok reply =>
        have hversion : readVersion server gmsUrl urn aspect slot = .ok reply := by
          simp only [readVersion, hurl, hread, bind, Except.bind]
        simp only [hurl, hread, bind, Except.bind] at h
        cases reply with
        | none =>
          refine ⟨entries, ⟨hpresent, ?_⟩, (Except.ok.inj h).symm⟩
          rw [hlength, hversion]
        | some entry =>
          dsimp only at h
          split at h
          case isTrue => cases h
          case isFalse hlimit =>
            rw [← hlength, ← locate_append, hlength] at h
            refine ih (by omega) (by omega) (by simp [hlength]) (fun j hj => ?_) h
            rw [List.length_append, List.length_singleton] at hj
            by_cases hlast : j < entries.length
            · rw [hpresent j hlast, List.getElem_append_left hlast]
            · obtain rfl : j = slot := by omega
              rw [hversion, List.getElem_append_right (by omega)]
              simp

/-- **A history is complete**: the read throws, or it returns, once each, the entries of all versions up
to the first that is absent. -/
theorem history_complete (S : Sorter LocatedVersion) (server : AspectServer) (gmsUrl urn : Text)
    (aspect : MutableAspectName) (options : VersionHistoryReadOptions) :
    (∃ e, readAspectVersionHistory S server gmsUrl urn aspect options = .error e)
    ∨ ∃ history entries, readAspectVersionHistory S server gmsUrl urn aspect options = .ok history
      ∧ Retained server gmsUrl urn aspect entries ∧ Deduplicates entries history := by
  cases hread : readAspectVersionHistory S server gmsUrl urn aspect options with
  | error e => exact .inl ⟨e, rfl⟩
  | ok history =>
    refine .inr ⟨history, ?_⟩
    rw [readAspectVersionHistory] at hread
    cases hlimit : options.limit with
    | error e =>
      rw [hlimit] at hread
      cases hread
    | ok limits =>
      cases hcurrent : readVersion server gmsUrl urn aspect 0 with
      | error e =>
        simp only [hlimit, hcurrent, bind, Except.bind] at hread
        cases hread
      | ok reply =>
        simp only [hlimit, hcurrent, bind, Except.bind] at hread
        cases reply with
        | none =>
          obtain rfl := Except.ok.inj hread
          exact ⟨[], rfl, ⟨nofun, hcurrent⟩, ⟨List.nodup_nil, nofun, nofun⟩⟩
        | some current =>
          dsimp only at hread
          split at hread
          case h_1 => cases hread
          case h_2 located hlocated =>
            have hfirst : readHistorical server gmsUrl urn aspect limits.1 limits.2 (limits.1 + 1) 1
                (locate [current]) = .ok located := hlocated
            have hpresent : ∀ j, (h : j < [current].length) →
                readVersion server gmsUrl urn aspect j = .ok (some [current][j]) := by
              intro j hj
              obtain rfl : j = 0 := by simpa using hj
              exact hcurrent
            have hrounds : 1 + (limits.1 + 1) = limits.1 + 2 := by omega
            obtain ⟨retained, hretained, rfl⟩ :=
              readHistorical_eq_ok hrounds (Nat.le_add_left _ _) rfl hpresent hfirst
            refine ⟨retained, rfl, hretained, ?_⟩
            obtain rfl := Except.ok.inj hread
            have hdedup := dedupeAndOrder_deduplicates S (locate retained)
            rwa [map_entry_locate] at hdedup

end History

/-! ## 6. Times -/

section Times

theorem atMost_trans {s t u : Number} (hst : atMost s t = true) (htu : atMost t u = true) :
    atMost s u = true := by
  cases s with
  | nan => cases hst
  | infinity neg =>
    cases t with
    | nan => cases hst
    | infinity neg' =>
      cases u with
      | nan => cases htu
      | infinity neg'' => cases neg <;> cases neg' <;> simp_all [atMost]
      | finite => cases neg <;> cases neg' <;> simp_all [atMost]
    | finite y =>
      cases u with
      | nan => cases htu
      | infinity => simp_all [atMost]
      | finite => exact hst
  | finite x =>
    cases t with
    | nan => cases hst
    | infinity neg' =>
      cases u with
      | nan => cases htu
      | infinity neg'' => cases neg' <;> simp_all [atMost]
      | finite => cases neg' <;> simp_all [atMost]
    | finite y =>
      cases u with
      | nan => cases htu
      | infinity => exact htu
      | finite z =>
        simp only [atMost, decide_eq_true_eq] at hst htu ⊢
        exact hst.trans htu

theorem atMost_total {s t : Number} (hs : s ≠ .nan) (ht : t ≠ .nan) :
    atMost s t = true ∨ atMost t s = true := by
  cases s with
  | nan => exact absurd rfl hs
  | infinity neg =>
    cases t with
    | nan => exact absurd rfl ht
    | infinity neg' => cases neg <;> cases neg' <;> simp [atMost]
    | finite => cases neg <;> simp [atMost]
  | finite x =>
    cases t with
    | nan => exact absurd rfl ht
    | infinity neg' => cases neg' <;> simp [atMost]
    | finite y =>
      simp only [atMost, decide_eq_true_eq]
      exact le_total _ _

theorem magnitude_nonneg (x : Binary64) : 0 ≤ x.magnitude := by
  rw [Binary64.magnitude]
  positivity

/-- Doubles of one value are `===`. -/
theorem strictEq_of_signed {x y : Binary64} (h : signed x = signed y) :
    (Number.finite x).strictEq (.finite y) = true := by
  have hx := magnitude_nonneg x
  have hy := magnitude_nonneg y
  have hzero : ∀ {z : Binary64}, z.magnitude = 0 → (Number.finite z).isZero = true := by
    intro z hz
    simpa [Number.isZero, Binary64.magnitude, zpow_ne_zero] using hz
  have hmagnitude : x.magnitude = y.magnitude := by
    rw [signed, signed] at h
    split at h <;> split at h <;> linarith
  by_cases hmag : x.magnitude = 0
  · simp [Number.strictEq, hzero hmag, hzero (hmagnitude ▸ hmag)]
  · have hneg : x.neg = y.neg := by
      rw [signed, signed, hmagnitude] at h
      rw [hmagnitude] at hmag
      cases hxn : x.neg <;> cases hyn : y.neg
      · rfl
      · rw [hxn, hyn] at h
        exact absurd (by simpa using h : y.magnitude = -y.magnitude) (by intro h'; apply hmag; linarith)
      · rw [hxn, hyn] at h
        exact absurd (by simpa using h : -y.magnitude = y.magnitude) (by intro h'; apply hmag; linarith)
      · rfl
    have heq : Number.finite x = .finite y := by
      rw [← Binary64.ofMagnitude_magnitude x, ← Binary64.ofMagnitude_magnitude y, hneg, hmagnitude]
    rw [heq]
    exact Number.strictEq_self (by simp)

theorem strictEq_iff {s t : Number} (hs : s ≠ .nan) (ht : t ≠ .nan) :
    s.strictEq t = true ↔ atMost s t = true ∧ atMost t s = true := by
  cases s with
  | nan => exact absurd rfl hs
  | infinity neg =>
    cases t with
    | nan => exact absurd rfl ht
    | infinity neg' => cases neg <;> cases neg' <;> decide
    | finite => cases neg <;> simp [atMost, Number.strictEq, Number.isZero]
  | finite x =>
    cases t with
    | nan => exact absurd rfl ht
    | infinity neg' => cases neg' <;> simp [atMost, Number.strictEq, Number.isZero]
    | finite y =>
      simp only [atMost, decide_eq_true_eq]
      constructor
      · intro h
        unfold Number.strictEq at h
        rw [Bool.or_eq_true, decide_eq_true_eq, Number.finite.injEq] at h
        rcases h with h | rfl
        · have hzero : ∀ {z : Binary64}, (Number.finite z).isZero = true → signed z = 0 := by
            intro z hz
            have hman : z.man = 0 := by simpa [Number.isZero] using hz
            simp [signed, Binary64.magnitude, hman]
          obtain ⟨hx, hy⟩ := Bool.and_eq_true_iff.mp h
          rw [hzero hx, hzero hy]
          exact ⟨le_refl _, le_refl _⟩
        · exact ⟨le_refl _, le_refl _⟩
      · rintro ⟨hle, hge⟩
        exact strictEq_of_signed (le_antisymm hle hge)

/-- The one entry was observed before the other. -/
def Earlier (e f : DhVersionedAspect) : Prop :=
  ∃ s t, lastObserved e = some s ∧ lastObserved f = some t ∧ atMost s t = true ∧ atMost t s = false

/-- The entry has a time. -/
def Timed (e : DhVersionedAspect) : Prop := (lastObserved e).isSome = true

variable {e f g : DhVersionedAspect}

theorem Earlier.left (h : Earlier e f) : Timed e := by
  obtain ⟨s, t, hs, -⟩ := h
  rw [Timed, hs]
  rfl

theorem Earlier.right (h : Earlier e f) : Timed f := by
  obtain ⟨s, t, -, ht, -⟩ := h
  rw [Timed, ht]
  rfl

theorem Earlier.asymm (h : Earlier e f) : ¬Earlier f e := by
  obtain ⟨s, t, hs, ht, hst, -⟩ := h
  rintro ⟨t', s', ht', hs', -, hle⟩
  obtain rfl := Option.some.inj (hs.symm.trans hs')
  obtain rfl := Option.some.inj (ht.symm.trans ht')
  rw [hst] at hle
  cases hle

theorem Earlier.trans (h : Earlier e f) (h' : Earlier f g) : Earlier e g := by
  obtain ⟨s, t, hs, ht, hst, -⟩ := h
  obtain ⟨t', u, ht', hu, htu, hut⟩ := h'
  obtain rfl := Option.some.inj (ht.symm.trans ht')
  refine ⟨s, u, hs, hu, atMost_trans hst htu, ?_⟩
  by_contra hus
  rw [Bool.not_eq_false] at hus
  rw [atMost_trans hus hst] at hut
  cases hut

/-- An entry with a time is not as early as both of two, or not as late. -/
theorem Earlier.between (h : Earlier e g) (hf : Timed f) (hnan : lastObserved f ≠ some .nan) :
    Earlier e f ∨ Earlier f g := by
  obtain ⟨s, u, hs, hu, hsu, hus⟩ := h
  obtain ⟨t, ht⟩ := Option.isSome_iff_exists.mp hf
  have hsn : s ≠ .nan := by
    rintro rfl
    cases hsu
  have htn : t ≠ .nan := by
    rintro rfl
    exact hnan ht
  cases hts : atMost t s with
  | false => exact .inl ⟨s, t, hs, ht, (atMost_total hsn htn).resolve_right (by simp [hts]), hts⟩
  | true =>
    refine .inr ⟨t, u, ht, hu, atMost_trans hts hsu, ?_⟩
    by_contra hut
    rw [Bool.not_eq_false] at hut
    rw [atMost_trans hut hts] at hus
    cases hus

end Times

/-! ## 7. When a history is in order -/

section Order

variable {a b c : LocatedVersion} {located : List LocatedVersion} {S : Sorter LocatedVersion}

/-- No entry stands after one that was observed later. -/
def Chronological (history : List DhVersionedAspect) : Prop := history.Pairwise fun e f => ¬Earlier f e

/-- The comparator, where both times are numbers. -/
theorem compareVersions_eq (ha : lastObserved a.entry ≠ some .nan) (hb : lastObserved b.entry ≠ some .nan) :
    (Earlier a.entry b.entry ∧ compareVersions a b = .lt)
    ∨ (Earlier b.entry a.entry ∧ compareVersions a b = .gt)
    ∨ (¬Earlier a.entry b.entry ∧ ¬Earlier b.entry a.entry ∧ compareVersions a b = compareSlots a b) := by
  rw [compareVersions]
  cases hs : lastObserved a.entry with
  | none =>
    refine .inr (.inr ⟨?_, ?_, rfl⟩)
    · rintro ⟨s, t, hs', -⟩
      cases hs.symm.trans hs'
    · rintro ⟨t, s, -, hs', -⟩
      cases hs.symm.trans hs'
  | some s =>
    cases ht : lastObserved b.entry with
    | none =>
      refine .inr (.inr ⟨?_, ?_, rfl⟩)
      · rintro ⟨s, t, -, ht', -⟩
        cases ht.symm.trans ht'
      · rintro ⟨t, s, ht', -⟩
        cases ht.symm.trans ht'
    | some t =>
      have hsn : s ≠ .nan := by
        rintro rfl
        exact ha hs
      have htn : t ≠ .nan := by
        rintro rfl
        exact hb ht
      dsimp only
      cases hst : atMost s t with
      | false =>
        have hts := (atMost_total hsn htn).resolve_left (by simp [hst])
        refine .inr (.inl ⟨⟨t, s, ht, hs, hts, hst⟩, ?_⟩)
        rw [if_neg (by rw [strictEq_iff hsn htn, hst]; simp), compareTimes, hst, hts]
        rfl
      | true =>
        cases hts : atMost t s with
        | false =>
          refine .inl ⟨⟨s, t, hs, ht, hst, hts⟩, ?_⟩
          rw [if_neg (by rw [strictEq_iff hsn htn, hts]; simp), compareTimes, hst]
          rfl
        | true =>
          refine .inr (.inr ⟨?_, ?_, ?_⟩)
          · rintro ⟨s', t', hs', ht', -, hle⟩
            obtain rfl := Option.some.inj (hs.symm.trans hs')
            obtain rfl := Option.some.inj (ht.symm.trans ht')
            rw [hts] at hle
            cases hle
          · rintro ⟨t', s', ht', hs', -, hle⟩
            obtain rfl := Option.some.inj (hs.symm.trans hs')
            obtain rfl := Option.some.inj (ht.symm.trans ht')
            rw [hst] at hle
            cases hle
          · rw [if_pos ((strictEq_iff hsn htn).mpr ⟨hst, hts⟩)]

theorem compareSlots_ne_gt : compareSlots a b ≠ .gt ↔ b.slot ≤ a.slot := by
  rw [compareSlots, Ne, compare_gt_iff_gt, not_lt]

theorem compareVersions_ne_gt (ha : lastObserved a.entry ≠ some .nan)
    (hb : lastObserved b.entry ≠ some .nan) : compareVersions a b ≠ .gt ↔
      Earlier a.entry b.entry ∨ (¬Earlier b.entry a.entry ∧ b.slot ≤ a.slot) := by
  rcases compareVersions_eq ha hb with ⟨hab, heq⟩ | ⟨hba, heq⟩ | ⟨hab, hba, heq⟩
  · simp [heq, hab]
  · simp [heq, hba, hba.asymm]
  · rw [heq, compareSlots_ne_gt]
    simp [hab, hba]

theorem compareVersions_swap (ha : lastObserved a.entry ≠ some .nan)
    (hb : lastObserved b.entry ≠ some .nan) : compareVersions a b = (compareVersions b a).swap := by
  rcases compareVersions_eq ha hb with ⟨hab, heq⟩ | ⟨hba, heq⟩ | ⟨hab, hba, heq⟩
  · rcases compareVersions_eq hb ha with ⟨hba, -⟩ | ⟨-, heq'⟩ | ⟨-, hba, -⟩
    · exact absurd hba hab.asymm
    · rw [heq, heq']
      rfl
    · exact absurd hab hba
  · rcases compareVersions_eq hb ha with ⟨-, heq'⟩ | ⟨hab, -⟩ | ⟨hab, -, -⟩
    · rw [heq, heq']
      rfl
    · exact absurd hab hba.asymm
    · exact absurd hba hab
  · rcases compareVersions_eq hb ha with ⟨hba', -⟩ | ⟨hab', -⟩ | ⟨-, -, heq'⟩
    · exact absurd hba' hba
    · exact absurd hab' hab
    · rw [heq, heq', compareSlots, compareSlots]
      exact (Nat.compare_swap _ _).symm

/-- An entry stands in the way of two: it has no time and a slot between theirs, or it has NaN as its
time. -/
def Disturbs (a b u : LocatedVersion) : Prop :=
  (¬Timed u.entry ∧ a.slot ≤ u.slot ∧ u.slot ≤ b.slot) ∨ lastObserved u.entry = some .nan

/-- No entry stands in the way of two whose times and slots disagree. -/
def Undisturbed (vs : List LocatedVersion) : Prop :=
  ∀ a ∈ vs, ∀ b ∈ vs, ∀ u ∈ vs, Earlier a.entry b.entry → ¬Disturbs a b u

/-- Undisturbed versions are ordered by the comparator. -/
theorem consistent_of_undisturbed {vs : List LocatedVersion} (h : Undisturbed vs)
    (hnan : ∀ v ∈ vs, lastObserved v.entry ≠ some .nan) : Consistent compareVersions vs where
  swap a ha b hb := compareVersions_swap (hnan a ha) (hnan b hb)
  trans a ha b hb c hc hab hbc := by
    rw [compareVersions_ne_gt (hnan a ha) (hnan b hb)] at hab
    rw [compareVersions_ne_gt (hnan b hb) (hnan c hc)] at hbc
    rw [compareVersions_ne_gt (hnan a ha) (hnan c hc)]
    by_contra hac
    rw [not_or, not_and, not_le] at hac
    obtain ⟨hac, hslot⟩ := hac
    have hba : ¬Earlier b.entry a.entry := fun hba => hab.elim hba.asymm (·.1 hba)
    have hcb : ¬Earlier c.entry b.entry := fun hcb => hbc.elim hcb.asymm (·.1 hcb)
    by_cases hca : Earlier c.entry a.entry
    · by_cases hb' : Timed b.entry
      · exact (hca.between hb' (hnan b hb)).elim hcb hba
      · have hab := (hab.resolve_left fun he => hb' he.right).2
        have hbc := (hbc.resolve_left fun he => hb' he.left).2
        exact h c hc a ha b hb hca (.inl ⟨hb', hbc, hab⟩)
    · have hslot := hslot hca
      rcases hab with hab | ⟨-, hab⟩
      · rcases hbc with hbc | ⟨-, hbc⟩
        · exact hac (hab.trans hbc)
        · by_cases hc' : Timed c.entry
          · exact (hab.between hc' (hnan c hc)).elim hac hcb
          · exact h a ha b hb c hc hab (.inl ⟨hc', hslot.le, hbc⟩)
      · rcases hbc with hbc | ⟨-, hbc⟩
        · by_cases ha' : Timed a.entry
          · exact (hbc.between ha' (hnan a ha)).elim hba hac
          · exact h b hb c hc a ha hbc (.inl ⟨ha', hab, hslot.le⟩)
        · omega

theorem chronological_of_undisturbed (h : Undisturbed (uniqueVersions located)) :
    Chronological (dedupeAndOrder S located) := by
  have hmem : ∀ {v}, v ∈ S.sort compareVersions (uniqueVersions located) → v ∈ uniqueVersions located :=
    (S.perm _ _).mem_iff.mp
  rw [Chronological, dedupeAndOrder, List.pairwise_map]
  by_cases hnan : ∀ v ∈ uniqueVersions located, lastObserved v.entry ≠ some .nan
  · refine (S.pairwise (consistent_of_undisturbed h hnan)).imp_of_mem fun ha hb hle hba => ?_
    rw [compareVersions_ne_gt (hnan _ (hmem ha)) (hnan _ (hmem hb))] at hle
    exact hle.elim hba.asymm (·.1 hba)
  · -- where some time is NaN, no entry was observed before another
    push Not at hnan
    obtain ⟨u, hu, hnan⟩ := hnan
    refine List.Pairwise.imp_of_mem (R := fun _ _ => True) (fun ha hb _ hba => ?_)
      (List.pairwise_of_forall fun _ _ => trivial)
    exact h _ (hmem hb) _ (hmem ha) u hu hba (.inr hnan)

/-- A disturbed list is one that the comparator does not order. -/
theorem Disturbs.not_consistent {vs : List LocatedVersion} {u : LocatedVersion} (ha : a ∈ vs) (hb : b ∈ vs)
    (hu : u ∈ vs) (hab : Earlier a.entry b.entry) (h : Disturbs a b u) :
    ¬Consistent compareVersions vs := by
  intro hconsistent
  obtain ⟨s, t, hs, ht, hst, hts⟩ := hab
  have hsn : s ≠ .nan := by
    rintro rfl
    cases hst
  have htn : t ≠ .nan := by
    rintro rfl
    cases s <;> cases hst
  have hgt : compareVersions b a = .gt := by
    rw [compareVersions, hs, ht]
    dsimp only
    rw [if_neg (by rw [strictEq_iff htn hsn, hts]; simp), compareTimes, hts, hst]
    rfl
  refine hconsistent.trans b hb u hu a ha ?_ ?_ hgt
  · rcases h with ⟨hu, -, hle⟩ | hu
    · rw [Timed, Bool.not_eq_true, Option.isSome_eq_false_iff, Option.isNone_iff_eq_none] at hu
      rw [compareVersions, hu, ht]
      exact compareSlots_ne_gt.mpr hle
    · cases t <;> simp [compareVersions, hu, ht, Number.strictEq, compareTimes, atMost]
  · rcases h with ⟨hu, hle, -⟩ | hu
    · rw [Timed, Bool.not_eq_true, Option.isSome_eq_false_iff, Option.isNone_iff_eq_none] at hu
      rw [compareVersions, hu]
      exact compareSlots_ne_gt.mpr hle
    · cases s <;> simp [compareVersions, hu, hs, Number.strictEq, compareTimes, atMost]

/-- Two elements can be put in front, the one before the other. -/
theorem exists_perm_front {α : Type} {x y : α} {xs : List α} (hx : x ∈ xs) (hy : y ∈ xs) (hne : x ≠ y) :
    ∃ rest, (x :: y :: rest).Perm xs := by
  obtain ⟨l, r, rfl⟩ := List.append_of_mem hx
  have hy : y ∈ l ++ r := by
    rw [List.mem_append, List.mem_cons] at hy
    rcases hy with hy | rfl | hy
    · exact List.mem_append_left _ hy
    · exact absurd rfl hne
    · exact List.mem_append_right _ hy
  obtain ⟨l', r', heq⟩ := List.append_of_mem hy
  refine ⟨l' ++ r', ?_⟩
  calc (x :: y :: (l' ++ r')).Perm (x :: (l' ++ y :: r')) := (List.perm_middle.symm).cons x
    _ = x :: (l ++ r) := by rw [heq]
    List.Perm _ (l ++ x :: r) := List.perm_middle.symm

/-- **When a history is in the order of its times**, whatever implementation sorts it: exactly when no entry
stands in the way of two others.  Nothing is ever lost. -/
theorem chronological_iff (located : List LocatedVersion) :
    (∀ S : Sorter LocatedVersion, Chronological (dedupeAndOrder S located)
      ∧ Deduplicates (located.map LocatedVersion.entry) (dedupeAndOrder S located))
    ↔ Undisturbed (uniqueVersions located) := by
  constructor
  · intro h a ha b hb u hu hab hdisturbs
    have hne : b ≠ a := by
      rintro rfl
      exact hab.asymm hab
    obtain ⟨rest, hperm⟩ := exists_perm_front hb ha hne
    obtain ⟨S, hS⟩ := exists_sorter (hdisturbs.not_consistent ha hb hu hab) hperm
    have hordered := (h S).1
    rw [Chronological, dedupeAndOrder, hS, List.map_cons, List.map_cons, List.pairwise_cons] at hordered
    exact hordered.1 _ (.head _) hab
  · intro h S
    exact ⟨chronological_of_undisturbed h, dedupeAndOrder_deduplicates S located⟩

/-- An entry with an owner and, if it was observed, a time. -/
def sampleVersion (owner : String) (time : Option ℕ) : DhVersionedAspect where
  value := object [("owner", lit owner)]
  systemMetadata := object (time.toList.map fun n => ("lastObserved", .num (.ofNat n)))

/-- The current version, observed at 3, one without a time, and one observed at 5. -/
def sampleVersions : List LocatedVersion :=
  [⟨0, sampleVersion "a" (some 3)⟩, ⟨1, sampleVersion "b" none⟩, ⟨2, sampleVersion "c" (some 5)⟩]

/-- **Two observed versions stand in the wrong order**, with one that was not observed between them. -/
theorem sampleVersions_unordered :
    dedupeAndOrder (runSorter _) sampleVersions
      = [sampleVersion "c" (some 5), sampleVersion "b" none, sampleVersion "a" (some 3)]
    ∧ ¬Chronological (dedupeAndOrder (runSorter _) sampleVersions) := by
  have hkeys : (sampleVersions.map fun v => entryKey v.entry).Nodup := by decide +kernel
  have hdescends : Descends compareVersions sampleVersions := by decide +kernel
  have hearlier : Earlier (sampleVersion "a" (some 3)) (sampleVersion "c" (some 5)) :=
    ⟨.ofNat 3, .ofNat 5, rfl, rfl, by decide +kernel, by decide +kernel⟩
  have hsorted : dedupeAndOrder (runSorter _) sampleVersions
      = [sampleVersion "c" (some 5), sampleVersion "b" none, sampleVersion "a" (some 3)] := by
    rw [dedupeAndOrder, uniqueVersions, firstsBy_eq_self hkeys, runSorter_descends hdescends]
    rfl
  refine ⟨hsorted, fun h => ?_⟩
  rw [hsorted, Chronological, List.pairwise_cons] at h
  exact h.1 _ (.tail _ (.head _)) hearlier

end Order

end Harvest
