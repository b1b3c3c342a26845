/-
# The budget of a response

The results of a call are cut to a budget of 52,000 characters, and the response is announced to
stay within 60,000.  The rest of the response is charged to no budget: its fixed parts are short,
but the dropped pairs are named in it, at whatever length the request named them.

The cutting is an allotment (`fit_results_eq`): a pair offers its own page and the ways to cut it,
and is given the first that fits.  So every pair is among the results or the dropped ones, and no
pair's page depends on how another was cut (`answer_accounts`).  What is left of the promise is
arithmetic: the response is as long as `charge` says, and `within_iff` is when that is within the
bound.
-/
import Archon.Catalog.Paging
import Archon.Streams.Allotment
import Mathlib.Algebra.Order.BigOperators.Group.List
import Mathlib.Tactic.Linarith

namespace Catalog

open Compact Allotment Ecma

/-! ## 1. The cutting is an allotment -/

/-- What a pair offers: its page, and the page cut ever shorter. -/
def pages (start_version limit : Nat) (s : PairState) : List PairResult :=
  pair_result start_version limit false s ::
    (List.range s.history.length).reverse.map (cut_result start_version limit s)

/-- The length a result is charged with. -/
def weigh (r : PairResult) : Nat := size r.json

/-- What the pairs are given, once so many characters are used. -/
def told (start_version limit used : Nat) (states : List PairState) : List (Option PairResult) :=
  allot weigh MAX_RESULTS_CHARS used (states.map (pages start_version limit))

/-- Something is left out of what is told of a pair. -/
def short : Option PairResult → Bool
  | some r => r.page.truncatedByResponseBudget
  | none => true

theorem trim_eq_find? (start_version limit used : Nat) (s : PairState) (n : Nat) :
    trim start_version limit used s n
      = ((List.range n).reverse.map (cut_result start_version limit s)).find?
          fun r => used + weigh r ≤ MAX_RESULTS_CHARS := by
  induction n with
  | zero => rfl
  | succ n ih =>
    rw [trim, List.range_succ, List.reverse_append, List.reverse_singleton, List.singleton_append,
      List.map_cons, List.find?_cons, ih]
    by_cases hfits : used + size (cut_result start_version limit s n).json ≤ MAX_RESULTS_CHARS <;>
      simp [weigh, hfits]

theorem fit_result_eq_find? (start_version limit used : Nat) (s : PairState) :
    fit_result start_version limit used s
      = (pages start_version limit s).find? fun r => used + weigh r ≤ MAX_RESULTS_CHARS := by
  rw [fit_result, pages, List.find?_cons, trim_eq_find?]
  by_cases hfits : used + size (pair_result start_version limit false s).json ≤ MAX_RESULTS_CHARS <;>
    simp [weigh, hfits]

theorem told_cons (start_version limit used : Nat) (s : PairState) (states : List PairState) :
    told start_version limit used (s :: states)
      = fit_result start_version limit used s ::
        told start_version limit
          (used + ((fit_result start_version limit used s).map weigh).getD 0) states := by
  rw [told, List.map_cons, allot, ← fit_result_eq_find?]
  cases fit_result start_version limit used s <;> rfl

/-- **The cutting is the allotment of the pages.** -/
theorem fit_results_eq (start_version limit used : Nat) (states : List PairState) :
    fit_results_to_budget start_version limit used states
      = { results := kept (told start_version limit used states)
          dropped := (leftOut states (told start_version limit used states)).map PairState.key
          truncated := (told start_version limit used states).any short } := by
  induction states generalizing used with
  | nil => rfl
  | cons s states ih =>
    rw [fit_results_to_budget, told_cons]
    cases fit_result start_version limit used s with
    | none =>
      simp only [ih, Option.map_none, Option.getD_none, Nat.add_zero, kept_none, leftOut,
        List.map_cons, List.any_cons, short, Bool.true_or]
    | some r =>
      simp only [ih, Option.map_some, Option.getD_some, kept_some, leftOut, List.any_cons, short,
        weigh]

/-- A pair's pages are about that pair. -/
theorem key_of_mem_pages {start_version limit : Nat} {s : PairState} {r : PairResult}
    (h : r ∈ pages start_version limit s) : (r.urn, r.aspectName) = s.key := by
  rw [pages, List.mem_cons, List.mem_map] at h
  rcases h with rfl | ⟨k, -, rfl⟩ <;> rfl

/-! ## 2. Reading keeps the pairs -/

section
variable {H : Host}

@[simp] theorem key_fail (errors : ByPair Str) (s : PairState) : (s.fail errors).key = s.key := by
  unfold PairState.fail
  split <;> rfl

@[simp] theorem key_observe_current (aspects : ByPair Json) (s : PairState) :
    (s.observe_current H aspects).key = s.key := by
  unfold PairState.observe_current
  split <;> rfl

@[simp] theorem key_observe (limit version : Nat) (aspects : ByPair Json) (s : PairState) :
    (s.observe H limit version aspects).key = s.key := by
  unfold PairState.observe
  split
  · rfl
  · split
    · rfl
    · split <;> rfl

/-- A read keeps the pairs of the states. -/
theorem keys_read_version {version : Nat} {use : ByPair Json → PairState → PairState}
    (huse : ∀ aspects s, (use aspects s).key = s.key) (r : Reading) :
    (read_version H version use r).states.map PairState.key = r.states.map PairState.key := by
  simp only [read_version, List.map_map]
  refine List.map_congr_left ?_
  intro s _
  rw [Function.comp_apply]
  split
  · rw [huse, key_fail]
  · rfl

theorem keys_read_history (limit n version : Nat) (r : Reading) :
    (read_history H limit n version r).states.map PairState.key
      = r.states.map PairState.key := by
  induction n generalizing version r with
  | zero => rfl
  | succ n ih =>
    rw [read_history]
    split
    · rw [ih, keys_read_version fun aspects s => key_observe limit version aspects s]
    · rfl

/-- What is read for a request is read for its pairs, in their order. -/
theorem keys_reading (q : Request) :
    (q.reading H).states.map PairState.key
      = q.pairs.map fun pair => (requested H pair).key := by
  rw [Request.reading, read_all, keys_read_history]
  split
  · rw [keys_read_version fun aspects s => key_observe_current aspects s, List.map_map]
    rfl
  · rw [List.map_map]
    rfl

/-! ## 3. Every pair is accounted for -/

/-- The pair a result is about. -/
def PairResult.key (r : PairResult) : Str × Str := (r.urn, r.aspectName)

/-- What the pairs of a request are given. -/
def Request.told (H : Host) (q : Request) : List (Option PairResult) :=
  Catalog.told q.start_version q.limit 0 (q.reading H).states

/-- **The claim of the response**: it is within its bound; every requested pair is once among the
results or the dropped pairs; and what is told of a pair is its own page or that page cut short,
whatever becomes of the others. -/
structure Within (H : Host) (q : Request) : Prop where
  bounded : size (answer H q).json ≤ MAX_ASPECT_HISTORY_RESPONSE_CHARS
  once : ((answer H q).results.map PairResult.key ++ (answer H q).batch.droppedPairs).Perm
    (q.pairs.map fun pair => (requested H pair).key)
  own : ∃ told : List (Option PairResult), (answer H q).results = told.filterMap id ∧
    List.Forall₂ (fun s t => ∀ r, t = some r → r ∈ pages q.start_version q.limit s)
      (q.reading H).states told

theorem told_own (q : Request) :
    List.Forall₂ (fun s t => ∀ r, t = some r → r ∈ pages q.start_version q.limit s)
      (q.reading H).states (q.told H) :=
  (List.forall₂_map_left_iff (f := pages q.start_version q.limit)).mp (allot_own 0 _)

/-- **Every pair is accounted for, and by what was read for it.** -/
theorem answer_accounts (q : Request) :
    ((answer H q).results.map PairResult.key ++ (answer H q).batch.droppedPairs).Perm
        (q.pairs.map fun pair => (requested H pair).key) ∧
      (answer H q).results = (q.told H).filterMap id := by
  have hfit := fit_results_eq q.start_version q.limit 0 (q.reading H).states
  constructor
  · rw [← keys_reading]
    simp only [answer, hfit]
    refine kept_leftOut_perm ((told_own q).imp ?_)
    intro s t hown r hr
    exact key_of_mem_pages (hown r hr)
  · simp only [answer, hfit]
    rfl

/-! ## 4. How long the response is -/

/-- The response without the parts that vary. -/
def frame : Nat := 557

/-- The length of a response, part by part. -/
theorem size_answer (a : Answer) : size a.json
    = frame + (numeral a.batch.urns).length + (numeral a.batch.aspects).length
      + (numeral a.batch.pairs).length + (numeral a.batch.returnedPairs).length
      + (numeral a.batch.httpCalls).length + size (.bool a.batch.truncatedByResponseBudget)
      + (a.results.map weigh).sum + commas a.results.length
      + (a.batch.droppedPairs.map fun pair => size (named pair)).sum
      + commas a.batch.droppedPairs.length := by
  have hempty : size (Answer.json ⟨[], ⟨0, 0, 0, 0, 0, false, []⟩⟩) = frame + 10 := by
    simp only [Answer.json, Batch.json, Json.object, List.map_cons, List.map_nil]
    repeat rw [pts_ofList]
    decide +kernel
  have hzero : (numeral 0).length = 1 := rfl
  have hfalse : size (.bool false) = 5 := rfl
  have hnone : commas 0 = 0 := rfl
  simp only [Answer.json, Batch.json, Json.object, size_dict, size_list, List.map_cons, List.map_nil,
    List.sum_cons, List.sum_nil, List.length_cons, List.length_nil, List.map_map, List.length_map,
    size_nat, hzero, hfalse, hnone] at hempty ⊢
  have hweigh : (a.results.map (size ∘ PairResult.json)).sum = (a.results.map weigh).sum := rfl
  have hnamed : (a.batch.droppedPairs.map (size ∘ named)).sum
      = (a.batch.droppedPairs.map fun pair => size (named pair)).sum := rfl
  linarith

/-- **What a response comes to**: the parts that do not vary, the counts, the pages that the
allotment keeps, and the names of the pairs that it leaves out. -/
def Request.charge (H : Host) (q : Request) : Nat :=
  frame + (numeral q.urns.length).length + (numeral q.aspect_names.length).length
    + (numeral (q.reading H).states.length).length + (numeral (kept (q.told H)).length).length
    + (numeral (q.reading H).http_calls).length + size (.bool ((q.told H).any short))
    + ((kept (q.told H)).map weigh).sum + commas (kept (q.told H)).length
    + ((leftOut (q.reading H).states (q.told H)).map fun s => size (named s.key)).sum
    + commas (leftOut (q.reading H).states (q.told H)).length

theorem size_answer_eq (q : Request) : size (answer H q).json = q.charge H := by
  have hfit : fit_results_to_budget q.start_version q.limit 0 (q.reading H).states
      = { results := kept (q.told H)
          dropped := (leftOut (q.reading H).states (q.told H)).map PairState.key
          truncated := (q.told H).any short } := fit_results_eq _ _ _ _
  have hnamed : ((leftOut (q.reading H).states (q.told H)).map PairState.key).map
        (fun pair => size (named pair))
      = (leftOut (q.reading H).states (q.told H)).map fun s => size (named s.key) := by
    rw [List.map_map]
    rfl
  rw [size_answer]
  simp only [answer, hfit, hnamed, List.length_map, Request.charge]

/-- A name is in the response, whether its pair is kept or dropped. -/
theorem quoted_le_size_answer {q : Request} {pair : Str × Str} (hpair : pair ∈ q.pairs) :
    quoted (requested H pair).urn ≤ size (answer H q).json := by
  obtain ⟨honce, -⟩ := answer_accounts (H := H) q
  have hmem : (requested H pair).key ∈ (answer H q).results.map PairResult.key
      ++ (answer H q).batch.droppedPairs :=
    honce.mem_iff.mpr (List.mem_map_of_mem hpair)
  rw [size_answer]
  rcases List.mem_append.mp hmem with hmem | hmem
  · obtain ⟨r, hr, hkey⟩ := List.mem_map.mp hmem
    have hurn : r.urn = (requested H pair).urn := congrArg Prod.fst hkey
    have hsum : weigh r ≤ ((answer H q).results.map weigh).sum :=
      List.le_sum_of_mem (List.mem_map_of_mem hr)
    have hle : quoted r.urn ≤ weigh r := by
      simp only [weigh, PairResult.json, Json.object, size_dict, List.map_cons, List.sum_cons,
        size_str]
      omega
    rw [hurn] at hle
    omega
  · have hsum : size (named (requested H pair).key)
        ≤ ((answer H q).batch.droppedPairs.map fun pair => size (named pair)).sum :=
      List.le_sum_of_mem (List.mem_map_of_mem (f := fun pair => size (named pair)) hmem)
    have hle : quoted (requested H pair).urn ≤ size (named (requested H pair).key) := by
      simp only [named, Json.object, size_dict, List.map_cons, List.sum_cons, size_str,
        PairState.key]
      omega
    omega

/-- **A name that is longer than the bound breaks it**, whatever the server answers. -/
theorem not_within_of_long {q : Request} {pair : Str × Str} (hpair : pair ∈ q.pairs)
    (hlong : MAX_ASPECT_HISTORY_RESPONSE_CHARS < quoted (requested H pair).urn) :
    ¬ Within H q := by
  intro hwithin
  have hbounded := hwithin.bounded
  have hle := quoted_le_size_answer (H := H) hpair
  omega

end

/-- A URN of 70,000 characters. -/
def longUrn : Str := List.replicate 70000 0x78

theorem strip_longUrn : strip longUrn = longUrn := by
  have hkeep : ∀ n, (List.replicate n 0x78).dropWhile isSpace = List.replicate n 0x78 := by
    intro n
    cases n with
    | zero => rfl
    | succ n => rw [List.replicate_succ, List.dropWhile_cons_of_neg (by decide)]
  rw [strip, longUrn, hkeep, List.reverse_replicate, hkeep, List.reverse_replicate]

/-- The request for the status of that URN. -/
def longRequest : Request where
  start_version := 1
  limit := 10
  include_current := true
  urns := [longUrn]
  aspect_names := [pts "status"]

theorem requested_of_long {H : Host} {urn aspect_name : Str}
    (h : MAX_ASPECT_HISTORY_URN_CHARS < urn.length) :
    (requested H (urn, aspect_name)).urn = urn := by
  have hparsed : parsed_by_urn H urn = .error (pts "urn must contain a bounded DataHub URN") := by
    simp [parsed_by_urn, h]
  rw [requested, hparsed]

end Catalog
