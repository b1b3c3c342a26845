/-
# Following a history page by page

A client asks for one pair from version 1 on, and goes on from `nextStartVersion` while `hasMore`
is set.  The server retains versions 1 to `n` and answers every read.

`page_of_retained` says what one call returns: the versions from the cursor on, as many as the limit
and the budget allow, and the first one that is left out as the next cursor.  The budget may allow
none.  Then the page is empty, its cursor is the one that was asked for, and the client asks again
for ever; or there is no room for the empty page either, and the pair is dropped.  So the client
gets through exactly when, at each cursor it reaches, the first version fits alone
(`pages_whole_iff`).
-/
import Archon.Catalog.AspectHistory
import Archon.Streams.Cursor

namespace Catalog

open Compact Cursor

/-! ## 1. A retained history, and its client -/

/-- What the server retains of a pair: the current value, and versions 1, 2, …. -/
structure History where
  current : Option Json
  versions : List Json

/-- The envelope of a version; version 0 is the current value. -/
def History.envelope (h : History) : Nat → Option Json
  | 0 => h.current
  | v + 1 => h.versions[v]?

/-- What the client asks with at every cursor, and the pair it asks for. -/
structure Query where
  urns : Json
  aspect_names : Json
  limit : Nat
  include_current : Bool
  urn : Str
  normalized : Str
  entity_type : Str
  aspect_name : Str

def Query.key (q : Query) : Str × Str := (q.normalized, q.aspect_name)

def Query.pair (q : Query) : VersionedAspectPair := ⟨q.normalized, q.entity_type, q.aspect_name⟩

/-- The server retains the history of the pair: the arguments are accepted, and every read of it
succeeds and returns the version that is retained. -/
structure Retained (H : Host) (q : Query) (h : History) : Prop where
  urns : normalize_string_list H q.urns "urns" MAX_ASPECT_HISTORY_URNS = .ok [q.urn]
  aspect_names : normalize_string_list H q.aspect_names "aspect_names"
    MAX_ASPECT_HISTORY_ASPECTS = .ok [q.aspect_name]
  limit_pos : 1 ≤ q.limit
  limit_le : q.limit ≤ MAX_ASPECT_HISTORY_LIMIT
  parsed : parsed_by_urn H q.urn = .ok (q.normalized, q.entity_type)
  allowed : q.aspect_name ∈ ASPECT_HISTORY_ALLOWLIST
  succeeds : ∀ v, latest (get_entities H [q.pair] v).errors q.key = none
  returns : ∀ v, latest (get_entities H [q.pair] v).aspects q.key = h.envelope v

/-- The page of a result, as the client reads it. -/
def leafOf (r : PairResult) : Option (Leaf Entry) :=
  if r.page.hasMore then r.page.nextStartVersion.map fun n => ⟨r.history, some n⟩
  else some ⟨r.history, none⟩

/-- One call of the client: nothing where it is refused or the pair is not among the results. -/
def turn (H : Host) (q : Query) (cursor : Nat) : Option (Leaf Entry) :=
  match get_aspect_history H q.urns q.aspect_names (.int cursor) (.int q.limit)
    (.bool q.include_current) with
  | .error _ => none
  | .ok answer => answer.results.head?.bind leafOf

/-- The entries of `k` versions from one on. -/
def entries (H : Host) (h : History) (start k : Nat) : List Entry :=
  (List.range' start k).map fun v => format_aspect_version H v ((h.envelope v).getD .null)

@[simp] theorem length_entries (H : Host) (h : History) (start k : Nat) :
    (entries H h start k).length = k := by
  simp [entries]

theorem versions_entries (H : Host) (h : History) (start k : Nat) :
    (entries H h start k).map Entry.version = List.range' start k := by
  rw [entries, List.map_map]
  exact List.map_id _

theorem entries_succ (H : Host) (h : History) (start k : Nat) :
    entries H h start (k + 1)
      = entries H h start k
        ++ [format_aspect_version H (start + k) ((h.envelope (start + k)).getD .null)] := by
  simp only [entries, List.range'_1_concat, List.map_append, List.map_cons, List.map_nil]

theorem entries_append (H : Host) (h : History) (start k l : Nat) :
    entries H h start k ++ entries H h (start + k) l = entries H h start (k + l) := by
  simp only [entries, ← List.map_append, List.range'_append_1]

theorem take_entries (H : Host) (h : History) (start : Nat) {k l : Nat} (hkl : k ≤ l) :
    (entries H h start l).take k = entries H h start k := by
  obtain ⟨m, rfl⟩ := Nat.exists_eq_add_of_le hkl
  rw [← entries_append, List.take_left' (length_entries H h start k)]

theorem getElem_entries (H : Host) (h : History) (start : Nat) {k l : Nat} (hkl : k < l) :
    ((entries H h start l)[k]?).map Entry.version = some (start + k) := by
  rw [← List.getElem?_map, versions_entries, List.getElem?_range' hkl]
  simp

/-- **The claim of the paging**: every call gets further, and in the end the client has versions 1
to `n`, each once and in order. -/
structure Complete (H : Host) (q : Query) (h : History) : Prop where
  progress : ∀ c leaf c', Reached (turn H q) 1 c → turn H q c = some leaf → leaf.next = some c' →
    c < c'
  whole : ∃ calls, follow (turn H q) calls 1 = some (entries H h 1 h.versions.length)

/-! ## 2. What is read at a cursor -/

/-- How many versions a page has at a cursor, before the budget. -/
def History.onPage (h : History) (limit cursor : Nat) : Nat :=
  min limit (h.versions.length + 1 - cursor)

/-- The state of the pair with `k` versions read. -/
def readState (H : Host) (q : Query) (h : History) (cursor k : Nat) : PairState :=
  { urn := q.normalized
    aspect_name := q.aspect_name
    entity_name := some q.entity_type
    current := if q.include_current then (h.current).map (format_aspect_version H 0) else none
    history := entries H h cursor k }

/-- The state of the pair when its page is read. -/
def pageState (H : Host) (q : Query) (h : History) (cursor : Nat) : PairState :=
  { readState H q h cursor (h.onPage q.limit cursor) with
    exhausted := true
    has_more := decide (cursor + q.limit ≤ h.versions.length)
    next_start_version :=
      if cursor + q.limit ≤ h.versions.length then some (cursor + q.limit) else none }

section
variable {H : Host} {q : Query} {h : History}

theorem envelope_of_pos (h : History) {v : Nat} (hv : 1 ≤ v) :
    h.envelope v = h.versions[v - 1]? := by
  obtain ⟨v, rfl⟩ := Nat.exists_eq_add_of_le' hv
  rfl

/-- A read of the pair alone. -/
theorem read_version_single (R : Retained H q h) (version calls : Nat)
    (use : ByPair Json → PairState → PairState) {s : PairState} (hs : s.pending = true)
    (hpair : s.pair = q.pair) (hkey : s.key = q.key) :
    ∃ calls', read_version H version use ⟨[s], calls⟩
      = ⟨[use (get_entities H [q.pair] version).aspects s], calls'⟩ := by
  refine ⟨calls + (get_entities H [q.pair] version).http_calls, ?_⟩
  have hfail : s.fail (get_entities H [q.pair] version).errors = s := by
    rw [PairState.fail, hkey, R.succeeds version]
  simp only [read_version, List.filter_cons, hs, if_true, List.filter_nil, List.map_cons, hpair,
    List.map_nil, hfail]

theorem pending_readState (cursor k : Nat) : (readState H q h cursor k).pending = true := rfl

/-- Nothing more is read when nothing is pending. -/
theorem read_history_done {limit n version : Nat} {r : Reading}
    (h : r.states.any PairState.pending = false) : read_history H limit n version r = r := by
  cases n with
  | zero => rfl
  | succ n => simp [read_history, h]

/-- The page is read when there is no further version. -/
theorem pageState_of_end {cursor k : Nat} (hcursor : 1 ≤ cursor)
    (hk : k ≤ h.onPage q.limit cursor) (hend : h.versions.length ≤ cursor + k - 1) :
    { readState H q h cursor k with exhausted := true } = pageState H q h cursor := by
  have hpage : h.onPage q.limit cursor = k := by
    unfold History.onPage at hk ⊢
    omega
  have hlast : ¬ cursor + q.limit ≤ h.versions.length := by
    unfold History.onPage at hk
    omega
  simp [pageState, hpage, hlast, readState]

/-- The page is read when it is full and there is a further version. -/
theorem pageState_of_full {cursor : Nat} (hcursor : 1 ≤ cursor)
    (hmore : cursor + q.limit - 1 < h.versions.length) :
    { readState H q h cursor q.limit with
      has_more := true, next_start_version := some (cursor + q.limit), exhausted := true }
      = pageState H q h cursor := by
  have hpage : h.onPage q.limit cursor = q.limit := by
    unfold History.onPage
    omega
  have hlast : cursor + q.limit ≤ h.versions.length := by omega
  simp [pageState, hpage, hlast, readState]

/-- **The loop over the versions.**  With `k` of them read, it reads the rest of the page, and
probes for one more. -/
theorem read_history_single (R : Retained H q h) {cursor k n : Nat} (calls : Nat)
    (hcursor : 1 ≤ cursor) (hk : k ≤ h.onPage q.limit cursor) (hn : n + k = q.limit + 1) :
    ∃ calls', read_history H q.limit n (cursor + k) ⟨[readState H q h cursor k], calls⟩
      = ⟨[pageState H q h cursor], calls'⟩ := by
  -- induction on the reads that are left, the probe among them
  induction n generalizing k calls with
  | zero =>
    unfold History.onPage at hk
    omega
  | succ n ih =>
    have hany : ([readState H q h cursor k].any PairState.pending) = true := by
      simp [pending_readState]
    obtain ⟨calls', hread⟩ := read_version_single R (cursor + k) calls
      (PairState.observe H q.limit (cursor + k)) (pending_readState cursor k)
      (rfl : (readState H q h cursor k).pair = q.pair) rfl
    rw [read_history, if_pos hany, hread]
    have henvelope : latest (get_entities H [q.pair] (cursor + k)).aspects
        (readState H q h cursor k).key = h.versions[cursor + k - 1]? :=
      (R.returns (cursor + k)).trans (envelope_of_pos h (by omega))
    have hlength : (readState H q h cursor k).history.length = k := length_entries H h cursor k
    rw [PairState.observe, if_neg (by simp [readState]), henvelope, hlength]
    cases hversion : h.versions[cursor + k - 1]? with
    | none =>
      rw [pageState_of_end hcursor hk (List.getElem?_eq_none_iff.mp hversion)]
      exact ⟨calls', read_history_done rfl⟩
    | some aspect =>
      have hlt : cursor + k - 1 < h.versions.length := (List.getElem?_eq_some_iff.mp hversion).1
      by_cases hfull : q.limit ≤ k
      · -- the page is full, and this was the probe
        obtain rfl : k = q.limit := by omega
        simp only [le_refl, if_true]
        rw [pageState_of_full hcursor hlt]
        exact ⟨calls', read_history_done rfl⟩
      · simp only [hfull, if_false]
        have hstep : { readState H q h cursor k with history := (readState H q h cursor k).history
              ++ [format_aspect_version H (cursor + k) aspect] }
            = readState H q h cursor (k + 1) := by
          have hget : (h.envelope (cursor + k)).getD .null = aspect := by
            rw [envelope_of_pos h (by omega), hversion, Option.getD_some]
          simp [readState, entries_succ, hget]
        rw [hstep]
        have hroom : k + 1 ≤ h.onPage q.limit cursor := by
          unfold History.onPage
          omega
        exact ih calls' hroom (by omega)

/-- What a call reads for the pair. -/
theorem read_all_single (R : Retained H q h) {cursor : Nat} (hcursor : 1 ≤ cursor) :
    (read_all H cursor q.limit q.include_current [(q.urn, q.aspect_name)]).states
      = [pageState H q h cursor] := by
  have hrequested : requested H (q.urn, q.aspect_name)
      = { urn := q.normalized, aspect_name := q.aspect_name, entity_name := some q.entity_type } := by
    simp [requested, R.parsed, R.allowed]
  have hloop : ∀ calls, (read_history H q.limit (q.limit + 1) cursor
      ⟨[readState H q h cursor 0], calls⟩).states = [pageState H q h cursor] := by
    intro calls
    obtain ⟨calls', hread⟩ := read_history_single R calls hcursor (Nat.zero_le _)
      (Nat.add_zero (q.limit + 1))
    simp only [Nat.add_zero] at hread
    rw [hread]
  cases hcurrent : q.include_current with
  | false =>
    have hstart : (⟨[requested H (q.urn, q.aspect_name)], 0⟩ : Reading)
        = ⟨[readState H q h cursor 0], 0⟩ := by
      simp [hrequested, readState, hcurrent, entries]
    simp only [read_all, List.map_cons, List.map_nil, Bool.false_and, Bool.false_eq_true, if_false]
    rw [hstart]
    exact hloop 0
  | true =>
    have hpending : (requested H (q.urn, q.aspect_name)).pending = true := by
      rw [hrequested]
      rfl
    obtain ⟨calls', hread⟩ := read_version_single R 0 0 (PairState.observe_current H) hpending (by rw [hrequested]; rfl)
      (by rw [hrequested]; rfl)
    have hstart : PairState.observe_current H (get_entities H [q.pair] 0).aspects
        (requested H (q.urn, q.aspect_name)) = readState H q h cursor 0 := by
      have henvelope : latest (get_entities H [q.pair] 0).aspects
          (requested H (q.urn, q.aspect_name)).key = h.current := by
        rw [hrequested]
        exact R.returns 0
      rw [PairState.observe_current, henvelope, hrequested]
      cases hnow : h.current <;> simp [readState, hcurrent, entries, hnow]
    simp only [read_all, List.map_cons, List.map_nil, List.any_cons, hpending, List.any_nil,
      Bool.or_false, Bool.and_true, if_true]
    rw [hread, hstart]
    exact hloop calls'

/-! ## 3. What fits the budget -/

/-- An entry is no shorter than its version. -/
theorem le_size_entry (e : Entry) : 7 ≤ size e.json := by
  have hkey : quoted (pts "version") = 9 := rfl
  rw [Entry.json, size_dict]
  simp only [List.map_cons, List.sum_cons, hkey]
  omega

/-- A page that is cut to one entry is hardly longer than another page with its cursor. -/
theorem size_page_le {p p' : Page} {c : Nat} (hstart : p.startVersion = p'.startVersion)
    (hlimit : p.requestedLimit = p'.requestedLimit) (hreturned : p.returned = 1)
    (hmore : p.hasMore = true) (hnext : p.nextStartVersion = some c) (hc : c < 10 ^ 7)
    (htruncated : p.truncatedByResponseBudget = true) : size p.json ≤ size p'.json + 6 := by
  have hone : (numeral 1).length = 1 := rfl
  have hreturned' := one_le_numeral p'.returned
  have hnumeral := numeral_le (by decide) hc
  have hnext' : 1 ≤ size (.opt (fun n : Nat => .int n) p'.nextStartVersion) := by
    cases p'.nextStartVersion with
    | none => decide
    | some n => simpa only [Json.opt, size_nat] using one_le_numeral n
  have hmore' : 4 ≤ size (.bool p'.hasMore) := by
    rw [size_bool]
    split <;> omega
  have htruncated' : 4 ≤ size (.bool p'.truncatedByResponseBudget) := by
    rw [size_bool]
    split <;> omega
  have htrue : size (.bool true) = 4 := rfl
  simp only [Page.json, Json.object, size_dict, List.map_cons, List.map_nil, List.sum_cons,
    List.sum_nil, List.length_cons, List.length_nil, hstart, hlimit, hreturned, hmore, hnext,
    htruncated, size_nat, hone, htrue, Json.opt] at hnext' ⊢
  omega

/-- Two results of one pair differ in their entries and their pages. -/
theorem size_result_le {r r' : PairResult} (hurn : r.urn = r'.urn)
    (haspect : r.aspectName = r'.aspectName) (hcurrent : r.current = r'.current)
    (herror : r.error = r'.error)
    (hle : size (.list (r.history.map Entry.json)) + size r.page.json
      ≤ size (.list (r'.history.map Entry.json)) + size r'.page.json) :
    size r.json ≤ size r'.json := by
  simp only [PairResult.json, Json.object, size_dict, List.map_cons, List.map_nil, List.sum_cons,
    List.sum_nil, List.length_cons, List.length_nil, hurn, haspect, hcurrent, herror]
  omega

/-- A result is no shorter than its entries. -/
theorem size_history_le (r : PairResult) :
    size (.list (r.history.map Entry.json)) ≤ size r.json := by
  simp only [PairResult.json, Json.object, size_dict, List.map_cons, List.sum_cons]
  omega

/-- **One entry is shorter than two**, whatever the page says besides. -/
theorem size_cut_one_le {cursor limit : Nat} {s : PairState} {r : PairResult} {e₁ e₂ : Entry}
    {es es' : List Entry} (hs : s.history = e₁ :: e₂ :: es) (hr : r.history = e₁ :: e₂ :: es')
    (hcursor : e₂.version < 10 ^ 7) (hurn : r.urn = s.urn) (haspect : r.aspectName = s.aspect_name)
    (hcurrent : r.current = s.current) (herror : r.error = s.error)
    (hstart : r.page.startVersion = cursor) (hlimit : r.page.requestedLimit = limit) :
    size (cut_result cursor limit s 1).json ≤ size r.json := by
  have hpage : size (cut_result cursor limit s 1).page.json ≤ size r.page.json + 6 := by
    refine size_page_le (c := e₂.version) hstart.symm hlimit.symm ?_ ?_ ?_ hcursor rfl
    · simp [cut_result, pair_result, hs]
    · simp [cut_result, pair_result]
    · simp [cut_result, pair_result, hs]
  refine size_result_le hurn.symm haspect.symm hcurrent.symm herror.symm ?_
  have hentry := le_size_entry e₂
  have hone : (cut_result cursor limit s 1).history = [e₁] := by
    simp [cut_result, pair_result, hs]
  rw [hone, hr]
  simp only [size_list, List.map_cons, List.map_nil, List.sum_cons, List.sum_nil, List.length_cons,
    List.length_nil, commas]
  omega

/-- The trimming finds a page if one of the shorter ones fits, and one that is no shorter. -/
theorem trim_of_fits {cursor limit used n : Nat} {s : PairState} :
    ∀ {k : Nat}, k < n → used + size (cut_result cursor limit s k).json ≤ MAX_RESULTS_CHARS →
      ∃ l, k ≤ l ∧ l < n ∧ trim cursor limit used s n = some (cut_result cursor limit s l) := by
  induction n with
  | zero =>
    intro k hk
    omega
  | succ n ih =>
    intro k hk hfits
    by_cases hlast : used + size (cut_result cursor limit s n).json ≤ MAX_RESULTS_CHARS
    · exact ⟨n, by omega, by omega, by simp [trim, hlast]⟩
    · have hne : k ≠ n := by
        rintro rfl
        exact hlast hfits
      obtain ⟨l, hkl, hln, htrim⟩ := ih (by omega) hfits
      exact ⟨l, hkl, by omega, by simp [trim, hlast, htrim]⟩

/-- What the trimming finds fits, and is one of the shorter pages. -/
theorem fits_of_trim {cursor limit used n : Nat} {s : PairState} {r : PairResult}
    (htrim : trim cursor limit used s n = some r) :
    used + size r.json ≤ MAX_RESULTS_CHARS ∧ ∃ k, k < n ∧ r = cut_result cursor limit s k := by
  induction n with
  | zero => cases htrim
  | succ n ih =>
    rw [trim] at htrim
    split at htrim
    case isTrue hfits =>
      cases htrim
      exact ⟨hfits, n, by omega, rfl⟩
    case isFalse =>
      obtain ⟨hfits, k, hk, rfl⟩ := ih htrim
      exact ⟨hfits, k, by omega, rfl⟩

/-- What is told of a pair fits, and is its own page or that page cut short. -/
theorem fits_of_fit_result {cursor limit used : Nat} {s : PairState} {r : PairResult}
    (h : fit_result cursor limit used s = some r) :
    used + size r.json ≤ MAX_RESULTS_CHARS ∧
      (r = pair_result cursor limit false s ∨
        ∃ k, k < s.history.length ∧ r = cut_result cursor limit s k) := by
  rw [fit_result] at h
  split at h
  case isTrue hfits =>
    cases h
    exact ⟨hfits, .inl rfl⟩
  case isFalse =>
    obtain ⟨hfits, hcut⟩ := fits_of_trim h
    exact ⟨hfits, .inr hcut⟩

/-! ## 4. One call -/

/-- The checks accept the arguments, up to the bound on the cursor. -/
theorem accept_of_le (R : Retained H q h) {cursor : Nat} (hcursor : 1 ≤ cursor)
    (hle : cursor ≤ MAX_ASPECT_HISTORY_START_VERSION) :
    accept H q.urns q.aspect_names (.int cursor) (.int q.limit) (.bool q.include_current)
      = .ok ⟨cursor, q.limit, q.include_current, [q.urn], [q.aspect_name]⟩ := by
  have hlimit : validate_bounded_int "limit" (.int q.limit) 1 MAX_ASPECT_HISTORY_LIMIT
      = .ok q.limit := by
    have h₁ := R.limit_pos
    have h₂ := R.limit_le
    rw [validate_bounded_int, if_pos (by omega), Int.toNat_natCast]
  have hstart : validate_bounded_int "start_version" (.int cursor) 1
      MAX_ASPECT_HISTORY_START_VERSION = .ok cursor := by
    rw [validate_bounded_int, if_pos (by omega), Int.toNat_natCast]
  rw [accept, hstart, hlimit, R.urns, R.aspect_names]
  rfl

theorem accept_of_gt {cursor : Nat} (hlt : ¬ cursor ≤ MAX_ASPECT_HISTORY_START_VERSION) :
    ∃ e, accept H q.urns q.aspect_names (.int cursor) (.int q.limit) (.bool q.include_current)
      = .error e := by
  have hstart : ¬ (((1 : Nat) : Int) ≤ cursor ∧
      (cursor : Int) ≤ MAX_ASPECT_HISTORY_START_VERSION) := by omega
  rw [accept, validate_bounded_int, if_neg hstart]
  exact ⟨_, rfl⟩

/-- What one call of the client returns. -/
theorem turn_of_retained (R : Retained H q h) {cursor : Nat} (hcursor : 1 ≤ cursor) :
    turn H q cursor = if cursor ≤ MAX_ASPECT_HISTORY_START_VERSION then
      (fit_result cursor q.limit 0 (pageState H q h cursor)).bind leafOf else none := by
  rw [turn, get_aspect_history]
  by_cases hle : cursor ≤ MAX_ASPECT_HISTORY_START_VERSION
  · have hstates : (Request.reading H
        ⟨cursor, q.limit, q.include_current, [q.urn], [q.aspect_name]⟩).states
        = [pageState H q h cursor] := read_all_single R hcursor
    have hresults : (answer H ⟨cursor, q.limit, q.include_current, [q.urn],
        [q.aspect_name]⟩).results
        = (fit_result cursor q.limit 0 (pageState H q h cursor)).toList := by
      rw [answer, hstates, fit_results_to_budget]
      cases fit_result cursor q.limit 0 (pageState H q h cursor) <;> rfl
    rw [accept_of_le R hcursor hle, if_pos hle]
    show (answer H _).results.head?.bind leafOf = _
    rw [hresults]
    cases fit_result cursor q.limit 0 (pageState H q h cursor) <;> rfl
  · obtain ⟨e, he⟩ := accept_of_gt (H := H) (q := q) hle
    rw [he, if_neg hle]
    rfl

theorem leafOf_full (cursor : Nat) :
    leafOf (pair_result cursor q.limit false (pageState H q h cursor))
      = some ⟨entries H h cursor (h.onPage q.limit cursor),
          if cursor + q.limit ≤ h.versions.length then some (cursor + q.limit) else none⟩ := by
  by_cases hmore : cursor + q.limit ≤ h.versions.length <;>
    simp [leafOf, pair_result, pageState, readState, hmore]

theorem leafOf_cut {cursor k : Nat} (hk : k < h.onPage q.limit cursor) :
    leafOf (cut_result cursor q.limit (pageState H q h cursor) k)
      = some ⟨entries H h cursor k, some (cursor + k)⟩ := by
  have hnext := getElem_entries H h cursor hk
  have htake := take_entries H h cursor (Nat.le_of_lt hk)
  simp only [leafOf, cut_result, pair_result, pageState, readState, Bool.or_true, if_true, htake,
    hnext, Option.map_some]

/-- **What the page of one call is**: a beginning of what remains at the cursor. -/
theorem page_of_retained (R : Retained H q h) {c : Nat} {leaf : Leaf Entry} (hc : 1 ≤ c)
    (hturn : turn H q c = some leaf) :
    c ≤ MAX_ASPECT_HISTORY_START_VERSION ∧
      (leaf.next = none →
        leaf.items = entries H h c (h.versions.length + 1 - c)) ∧
      ∀ c', leaf.next = some c' → c ≤ c' ∧ c' ≤ h.versions.length ∧
        leaf.items ++ entries H h c' (h.versions.length + 1 - c')
          = entries H h c (h.versions.length + 1 - c) := by
  have hlimit := R.limit_pos
  have hjoin : ∀ k, k ≤ h.onPage q.limit c → entries H h c k
      ++ entries H h (c + k) (h.versions.length + 1 - (c + k))
        = entries H h c (h.versions.length + 1 - c) := by
    intro k hk
    rw [entries_append]
    congr 1
    unfold History.onPage at hk
    omega
  rw [turn_of_retained R hc] at hturn
  split at hturn
  case isFalse => cases hturn
  case isTrue hle =>
    refine ⟨hle, ?_⟩
    obtain ⟨r, hfit, hleaf⟩ := Option.bind_eq_some_iff.mp hturn
    obtain ⟨-, rfl | ⟨k, hk, rfl⟩⟩ := fits_of_fit_result hfit
    · rw [leafOf_full, Option.some.injEq] at hleaf
      subst hleaf
      by_cases hmore : c + q.limit ≤ h.versions.length
      · have hpage : h.onPage q.limit c = q.limit := by
          unfold History.onPage
          omega
        rw [if_pos hmore, hpage]
        constructor
        · intro hnone
          cases hnone
        · intro c' hc'
          cases hc'
          exact ⟨by omega, hmore, hjoin q.limit (by omega)⟩
      · have hpage : h.onPage q.limit c = h.versions.length + 1 - c := by
          unfold History.onPage
          omega
        rw [if_neg hmore, hpage]
        constructor
        · intro _
          rfl
        · intro c' hc'
          cases hc'
    · have hk' : k < h.onPage q.limit c := by
        simpa [pageState, readState] using hk
      rw [leafOf_cut hk', Option.some.injEq] at hleaf
      subst hleaf
      constructor
      · intro hnone
        cases hnone
      · intro c' hc'
        cases hc'
        refine ⟨by omega, ?_, hjoin k (by omega)⟩
        unfold History.onPage at hk'
        omega

/-! ## 5. Getting through -/

/-- The result that a cursor is answered with when it holds the first version alone: a page with no
further version as it is, and any other cut to one entry. -/
def aloneResult (H : Host) (q : Query) (h : History) (cursor : Nat) : PairResult :=
  if h.onPage q.limit cursor ≤ 1 then pair_result cursor q.limit false (pageState H q h cursor)
  else cut_result cursor q.limit (pageState H q h cursor) 1

/-- The cursor is within the bound, and there its first version fits the budget alone. -/
def Alone (H : Host) (q : Query) (h : History) (cursor : Nat) : Prop :=
  cursor ≤ MAX_ASPECT_HISTORY_START_VERSION ∧
    size (aloneResult H q h cursor).json ≤ MAX_RESULTS_CHARS

/-- Where the first version fits alone, there is a page, and it gets further. -/
theorem page_of_alone (R : Retained H q h) {c : Nat} (hc : 1 ≤ c) (halone : Alone H q h c) :
    ∃ leaf, turn H q c = some leaf ∧ ∀ c', leaf.next = some c' → c < c' := by
  have hlimit := R.limit_pos
  obtain ⟨hle, hsize⟩ := halone
  rw [turn_of_retained R hc, if_pos hle, fit_result, Nat.zero_add]
  have hfull : ∃ leaf, leafOf (pair_result c q.limit false (pageState H q h c)) = some leaf ∧
      ∀ c', leaf.next = some c' → c < c' := by
    refine ⟨_, leafOf_full c, ?_⟩
    intro c' hc'
    simp only at hc'
    split at hc'
    · cases hc'
      omega
    · cases hc'
  by_cases hfits : size (pair_result c q.limit false (pageState H q h c)).json ≤ MAX_RESULTS_CHARS
  · rw [if_pos hfits]
    exact hfull
  · rw [if_neg hfits]
    have hpage : ¬ h.onPage q.limit c ≤ 1 := by
      intro hpage
      rw [aloneResult, if_pos hpage] at hsize
      exact hfits hsize
    rw [aloneResult, if_neg hpage] at hsize
    have hlength : (pageState H q h c).history.length = h.onPage q.limit c :=
      length_entries H h c _
    obtain ⟨l, hl, hlt, htrim⟩ := trim_of_fits (n := (pageState H q h c).history.length)
      (by omega : 1 < _) (by rw [Nat.zero_add]; exact hsize)
    rw [htrim]
    refine ⟨_, leafOf_cut (by omega), ?_⟩
    intro c' hc'
    cases hc'
    omega

/-- Where a page gets further or is the last, the first version fits alone. -/
theorem alone_of_page (R : Retained H q h) {c : Nat} {leaf : Leaf Entry} (hc : 1 ≤ c)
    (hturn : turn H q c = some leaf) (hprogress : ∀ c', leaf.next = some c' → c < c') :
    Alone H q h c := by
  have hle := (page_of_retained R hc hturn).1
  rw [turn_of_retained R hc, if_pos hle] at hturn
  obtain ⟨r, hfit, hleaf⟩ := Option.bind_eq_some_iff.mp hturn
  obtain ⟨hfits, hr⟩ := fits_of_fit_result hfit
  rw [Nat.zero_add] at hfits
  refine ⟨hle, ?_⟩
  have hlength : (pageState H q h c).history.length = h.onPage q.limit c := length_entries H h c _
  rw [aloneResult]
  split
  case isTrue hpage =>
    rcases hr with rfl | ⟨k, hk, rfl⟩
    · exact hfits
    · -- a page that is cut to nothing does not get further
      obtain rfl : k = 0 := by omega
      rw [leafOf_cut (by omega), Option.some.injEq] at hleaf
      subst hleaf
      exact absurd (hprogress c rfl) (Nat.lt_irrefl c)
  case isFalse hpage =>
    obtain ⟨m, hm⟩ : ∃ m, h.onPage q.limit c = m + 2 := ⟨h.onPage q.limit c - 2, by omega⟩
    -- the first two entries of the page
    have hcons : ∀ l, entries H h c (l + 2)
        = format_aspect_version H c ((h.envelope c).getD .null)
          :: format_aspect_version H (c + 1) ((h.envelope (c + 1)).getD .null)
          :: entries H h (c + 2) l := by
      intro l
      rfl
    have hhistory : (pageState H q h c).history = entries H h c (m + 2) := by
      show entries H h c (h.onPage q.limit c) = _
      rw [hm]
    have hcursor : c + 1 < 10 ^ 7 := by
      have hbound : MAX_ASPECT_HISTORY_START_VERSION = 1000000 := rfl
      omega
    rcases hr with rfl | ⟨k, hk, rfl⟩
    · refine Nat.le_trans ?_ hfits
      exact size_cut_one_le (hhistory.trans (hcons m)) (hhistory.trans (hcons m)) hcursor rfl rfl
        rfl rfl rfl rfl
    · rcases k with _ | _ | k
      · rw [leafOf_cut (by omega), Option.some.injEq] at hleaf
        subst hleaf
        exact absurd (hprogress c rfl) (Nat.lt_irrefl c)
      · exact hfits
      · have htake : (cut_result c q.limit (pageState H q h c) (k + 2)).history
            = entries H h c (k + 2) := by
          show (entries H h c (h.onPage q.limit c)).take (k + 2) = _
          exact take_entries H h c (by omega)
        refine Nat.le_trans ?_ hfits
        exact size_cut_one_le (hhistory.trans (hcons m)) (htake.trans (hcons k)) hcursor rfl rfl
          rfl rfl rfl rfl

theorem one_le_of_reached (R : Retained H q h) {c : Nat} (hreached : Reached (turn H q) 1 c) :
    1 ≤ c := by
  induction hreached with
  | start => exact Nat.le_refl 1
  | turn _ hpage hnext ih => exact Nat.le_trans ih ((page_of_retained R ih hpage).2.2 _ hnext).1

/-- No cursor lies beyond the last version. -/
theorem le_of_reached (R : Retained H q h) {c : Nat} (hreached : Reached (turn H q) 1 c) :
    c ≤ max 1 h.versions.length := by
  induction hreached with
  | start => exact Nat.le_max_left _ _
  | turn hc hpage hnext _ =>
    have hlast := ((page_of_retained R (one_le_of_reached R hc) hpage).2.2 _ hnext).2.1
    exact Nat.le_trans hlast (Nat.le_max_right _ _)

/-- A client that gets through finds the first version alone to fit, wherever it comes. -/
theorem alone_of_complete (R : Retained H q h) (hcomplete : Complete H q h) {c : Nat}
    (hreached : Reached (turn H q) 1 c) : Alone H q h c := by
  obtain ⟨calls, hfollow⟩ := hcomplete.whole
  obtain ⟨leaf, hpage⟩ := page_of_reached hfollow hreached
  exact alone_of_page R (one_le_of_reached R hreached) hpage
    fun c' => hcomplete.progress c leaf c' hreached hpage

/-- **When a client gets through.**  It makes progress with every call, stops, and has obtained
versions 1 to `n`, each once and in order, exactly when at every cursor it comes to, the cursor is
within its bound and the first version there fits the budget alone. -/
theorem pages_whole_iff (R : Retained H q h) :
    Complete H q h ↔ ∀ c, Reached (turn H q) 1 c → Alone H q h c := by
  constructor
  · intro hcomplete c hreached
    exact alone_of_complete R hcomplete hreached
  · intro halone
    have hpages : ∀ c, Reached (turn H q) 1 c → ∃ leaf, turn H q c = some leaf ∧
        ∀ c', leaf.next = some c' → c < c' :=
      fun c hc => page_of_alone R (one_le_of_reached R hc) (halone c hc)
    refine ⟨?_, ?_⟩
    · intro c leaf c' hc hturn
      obtain ⟨leaf', hturn', hlt⟩ := hpages c hc
      rw [hturn, Option.some.injEq] at hturn'
      subst hturn'
      exact hlt c'
    · refine follow_of_pages (fun c => entries H h c (h.versions.length + 1 - c))
        h.versions.length ?_
      intro c hc
      obtain ⟨leaf, hturn, hlt⟩ := hpages c hc
      obtain ⟨-, hend, hmore⟩ := page_of_retained R (one_le_of_reached R hc) hturn
      refine ⟨leaf, hturn, hend, ?_⟩
      intro c' hnext
      obtain ⟨-, hlast, hrest⟩ := hmore c' hnext
      exact ⟨hlt c' hnext, hlast, hrest⟩

end

/-! ## 6. A server with one history -/

/-- The number of a numeral. -/
def readNumeral (t : Str) : Nat := Nat.ofDigitChars 10 (t.map Char.ofNat) 0

theorem readNumeral_numeral (n : Nat) : readNumeral (numeral n) = n := by
  have hmap : (numeral n).map Char.ofNat = Nat.toDigits 10 n := by
    rw [numeral, List.map_map]
    have hid : Char.ofNat ∘ Char.toNat = id := by
      funext c
      exact Char.ofNat_toNat c
    rw [hid, List.map_id]
  rw [readNumeral, hmap, Nat.ofDigitChars_ten_toDigits]

/-- The answer to the request for one aspect of an entity. -/
def served (h : History) : Json → Option Json
  | .dict [(_, .str urn), (aspect_name, .dict [(_, .dict [(_, .str version)])])] =>
    match h.envelope (readNumeral version) with
    | some envelope => some (.dict [(pts "urn", .str urn), (aspect_name, envelope)])
    | none => some (.dict [(pts "urn", .str urn)])
  | _ => none

/-- It knows every entity, and its helpers cut what is too long and leave the rest as it is. -/
def serving (h : History) : Host where
  repair_json _ := none
  from_string urn := some (urn, pts "dataset")
  graph_exists _ := some true
  session_post _ payload := .ok ⟨200, none, .ok (.list (payload.filterMap (served h)))⟩
  clean_gql_response v := v
  truncate_descriptions v := v
  truncate_with_ellipsis t n suffix :=
    if t.length ≤ n then t else t.take (n - suffix.length) ++ suffix
  str := encode

/-- The question for the status of one dataset. -/
def statusQuery (limit : Nat) (include_current : Bool) : Query where
  urns := .str (pts "urn:li:dataset:(a,b,PROD)")
  aspect_names := .str (pts "status")
  limit
  include_current
  urn := pts "urn:li:dataset:(a,b,PROD)"
  normalized := pts "urn:li:dataset:(a,b,PROD)"
  entity_type := pts "dataset"
  aspect_name := pts "status"

/-- What a read of the pair returns. -/
theorem get_entities_serving {h : History} {limit : Nat} {include_current : Bool}
    (hvalue : ∀ v envelope, h.envelope v = some envelope →
      ∃ fields, envelope.get? (pts "value") = some (.dict fields)) (v : Nat) :
    get_entities (serving h) [(statusQuery limit include_current).pair] v
      = ⟨((h.envelope v).map fun envelope =>
          ((statusQuery limit include_current).key, envelope)).toList, [], 1⟩ := by
  let urn := pts "urn:li:dataset:(a,b,PROD)"
  have hserved : served h (entity_request v (urn, [pts "status"]))
      = some (match h.envelope v with
        | some envelope => .dict [(pts "urn", .str urn), (pts "status", envelope)]
        | none => .dict [(pts "urn", .str urn)]) := by
    show (match h.envelope (readNumeral (numeral v)) with
      | some envelope => _
      | none => _) = _
    rw [readNumeral_numeral]
    cases h.envelope v <;> rfl
  have hbody : batchGet (serving h) (pts "dataset") [entity_request v (urn, [pts "status"])]
      = .ok [match h.envelope v with
        | some envelope => .dict [(pts "urn", .str urn), (pts "status", envelope)]
        | none => .dict [(pts "urn", .str urn)]] := by
    show Except.ok (List.filterMap (served h) _) = _
    rw [List.filterMap_cons_some hserved, List.filterMap_nil]
  have hgroup : get_entities (serving h) [(statusQuery limit include_current).pair] v
      = ⟨(get_group (serving h) v (pts "dataset", [(urn, [pts "status"])])).aspects ++ [],
        (get_group (serving h) v (pts "dataset", [(urn, [pts "status"])])).errors ++ [],
        (get_group (serving h) v (pts "dataset", [(urn, [pts "status"])])).http_calls⟩ := rfl
  rw [hgroup, get_group, List.map_cons, List.map_nil, hbody]
  cases henvelope : h.envelope v with
  | none => rfl
  | some envelope =>
    obtain ⟨fields, hfields⟩ := hvalue v envelope henvelope
    have hfound : envelopes [(urn, [pts "status"])]
        (.dict [(pts "urn", .str urn), (pts "status", envelope)])
        = [((urn, pts "status"), envelope)] := by
      show List.filterMap (fun aspect_name => _) [pts "status"] = _
      have hget : Json.get? (.dict [(pts "urn", .str urn), (pts "status", envelope)])
          (pts "status") = some envelope := rfl
      simp only [List.filterMap_cons, hget, hfields, List.filterMap_nil]
    simp only [List.flatMap_cons, hfound, List.flatMap_nil, List.append_nil, Option.map_some,
      Option.toList_some]
    rfl

/-- The server retains the history it holds. -/
theorem retained_serving {h : History} {limit : Nat} {include_current : Bool}
    (hpos : 1 ≤ limit) (hle : limit ≤ MAX_ASPECT_HISTORY_LIMIT)
    (hvalue : ∀ v envelope, h.envelope v = some envelope →
      ∃ fields, envelope.get? (pts "value") = some (.dict fields)) :
    Retained (serving h) (statusQuery limit include_current) h where
  urns := rfl
  aspect_names := rfl
  limit_pos := hpos
  limit_le := hle
  parsed := rfl
  allowed := by
    show pts "status" ∈ ASPECT_HISTORY_ALLOWLIST
    decide
  succeeds v := by
    rw [get_entities_serving hvalue]
    rfl
  returns v := by
    rw [get_entities_serving hvalue]
    cases h.envelope v with
    | none => rfl
    | some envelope =>
      show List.lookup _ [((statusQuery limit include_current).key, envelope)] = _
      rw [List.lookup_cons_self]

/-- Versions with a short value. -/
def shortHistory (n : Nat) : History where
  current := none
  versions := List.replicate n (.dict [(pts "value", .dict [(pts "removed", .bool false)])])

theorem value_shortHistory {n v : Nat} {envelope : Json}
    (h : (shortHistory n).envelope v = some envelope) :
    ∃ fields, envelope.get? (pts "value") = some (.dict fields) := by
  cases v with
  | zero => cases h
  | succ v =>
    have hmem : envelope ∈ (shortHistory n).versions := List.mem_of_getElem? h
    rw [List.eq_of_mem_replicate hmem]
    exact ⟨_, rfl⟩

/-- A client that asks for one version at a time gets through two of them. -/
theorem complete_short : Complete (serving (shortHistory 2)) (statusQuery 1 false)
    (shortHistory 2) := by
  have R : Retained (serving (shortHistory 2)) (statusQuery 1 false) (shortHistory 2) :=
    retained_serving (by decide) (by decide) fun v envelope => value_shortHistory
  refine (pages_whole_iff R).mpr ?_
  intro c hc
  have hone := one_le_of_reached R hc
  have htwo : c ≤ 2 := le_of_reached R hc
  obtain rfl | rfl : c = 1 ∨ c = 2 := by omega
  · exact ⟨by decide, by decide +kernel⟩
  · exact ⟨by decide, by decide +kernel⟩

/-- An audit stamp that says one thing in all its fields. -/
def sameStamp (v : Json) : Json := .dict (AUDIT_STAMP_FIELDS.map fun key => (key, v))

/-- System metadata that says one thing in all its fields. -/
def sameMetadata (v : Json) : Json :=
  .dict (SYSTEM_METADATA_FIELDS.map (fun key => (key, v))
    ++ [(pts "aspectCreated", sameStamp v), (pts "aspectModified", sameStamp v)])

/-- One version, whose provenance says one thing everywhere. -/
def sameHistory (v : Json) : History where
  current := none
  versions := [.dict
    [(pts "value", .dict [(pts "removed", .bool false)]),
     (pts "systemMetadata", sameMetadata v), (pts "auditStamp", sameStamp v)]]

/-- What is told of that version. -/
theorem entries_sameHistory (v : Json) :
    entries (serving (sameHistory v)) (sameHistory v) 1 1
      = [⟨1, [(pts "value", .dict [(pts "removed", .bool false)]),
          (pts "valueTruncated", .bool false),
          (pts "systemMetadata",
            sameMetadata (bounded_provenance_value (serving (sameHistory v)) v)),
          (pts "auditStamp",
            sameStamp (bounded_provenance_value (serving (sameHistory v)) v))]⟩] := by
  rfl

/-- A text within the bound is told as it is. -/
theorem bounded_of_le (h : History) {t : Str} (ht : t.length ≤ MAX_PROVENANCE_STRING_CHARS) :
    bounded_provenance_value (serving h) (.str t) = .str t := by
  show Json.str (if t.length ≤ MAX_PROVENANCE_STRING_CHARS then t else _) = _
  rw [if_pos ht]

theorem le_size_sameStamp (v : Json) : 3 * size v ≤ size (sameStamp v) := by
  simp only [sameStamp, AUDIT_STAMP_FIELDS, size_dict, List.map_cons, List.map_nil, List.sum_cons,
    List.sum_nil]
  omega

theorem le_size_sameMetadata (v : Json) : 14 * size v ≤ size (sameMetadata v) := by
  have hstamp := le_size_sameStamp v
  simp only [sameMetadata, SYSTEM_METADATA_FIELDS, size_dict, List.map_cons, List.map_nil,
    List.cons_append, List.nil_append, List.sum_cons, List.sum_nil]
  omega

theorem retained_sameHistory (v : Json) {limit : Nat} {include_current : Bool}
    (hpos : 1 ≤ limit) (hle : limit ≤ MAX_ASPECT_HISTORY_LIMIT) :
    Retained (serving (sameHistory v)) (statusQuery limit include_current) (sameHistory v) := by
  refine retained_serving hpos hle ?_
  intro n envelope h
  rcases n with _ | _ | n
  · cases h
  · cases h
    exact ⟨_, rfl⟩
  · cases h

/-- A text that fills the budget when it is told in all the 17 fields of the provenance is in the
way of the client. -/
theorem not_complete_sameHistory {t : Str} (ht : t.length ≤ MAX_PROVENANCE_STRING_CHARS)
    (hsize : MAX_RESULTS_CHARS < 17 * size (.str t)) :
    ¬ Complete (serving (sameHistory (.str t))) (statusQuery 10 true) (sameHistory (.str t)) := by
  intro hcomplete
  obtain ⟨-, hfits⟩ := alone_of_complete
    (retained_sameHistory (.str t) (by decide) (by decide)) hcomplete .start
  have hhistory : (aloneResult (serving (sameHistory (.str t))) (statusQuery 10 true)
      (sameHistory (.str t)) 1).history
      = entries (serving (sameHistory (.str t))) (sameHistory (.str t)) 1 1 := rfl
  have hle := size_history_le (aloneResult (serving (sameHistory (.str t)))
    (statusQuery 10 true) (sameHistory (.str t)) 1)
  have hmetadata := le_size_sameMetadata (.str t)
  have hstamp := le_size_sameStamp (.str t)
  rw [hhistory, entries_sameHistory, bounded_of_le _ ht] at hle
  simp only [Entry.json, List.map_cons, List.map_nil, size_list, size_dict, List.sum_cons,
    List.sum_nil] at hle
  omega

/-- A text of 512 characters, each of which is escaped to six. -/
def longText : Str := List.replicate MAX_PROVENANCE_STRING_CHARS 1

/-- **A history the client does not get through**: its only version fills more than the budget, so
the page from version 1 on is empty, and its cursor is version 1. -/
theorem stuck_at_one :
    Retained (serving (sameHistory (.str longText))) (statusQuery 10 true)
      (sameHistory (.str longText)) ∧
    ¬ Complete (serving (sameHistory (.str longText))) (statusQuery 10 true)
      (sameHistory (.str longText)) := by
  have hsize : size (.str longText) = 3074 :=
    quoted_replicate (rfl : (escapeChar 1).length = 6) MAX_PROVENANCE_STRING_CHARS
  have hlength : longText.length ≤ MAX_PROVENANCE_STRING_CHARS := by
    rw [longText, List.length_replicate]
  refine ⟨retained_sameHistory _ (by decide) (by decide), not_complete_sameHistory hlength ?_⟩
  rw [hsize]
  decide

end Catalog
