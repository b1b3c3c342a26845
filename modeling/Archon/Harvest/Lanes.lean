/-
# Lanes over a shared cursor

`mapWithConcurrency` of `harvest-policy.ts` starts so many lanes, and each takes the next item when the
operation on its last one has settled.  The lanes share the cursor, the failure and the output.  Between
two awaits a lane is not interrupted, so a step is what one lane does from where it is resumed to where
it waits again; the operations settle in any order and with anything, and the signal may be aborted at
any time.

A run keeps its history.  `Accounted` says how the state goes with it, and `lanes_kept` what follows for
every state of every run.
-/
import Archon.Harvest.Pages
import Mathlib.Logic.Relation

namespace Harvest

open Ecma

/-! ## 1. The lanes -/

/-- A lane: not resumed yet, waiting for the operation on an item, or at its end. -/
inductive Lane where
  | ready
  | awaiting (index : ℕ)
  | returned
deriving DecidableEq

/-- Something that happened: an operation was started or has settled, or a lane saw the signal aborted. -/
inductive Occurrence (R : Type) where
  | started (index : ℕ)
  | settled (index : ℕ) (outcome : Except Thrown R)
  | expired

/-- The variables of `mapWithConcurrency`, the lanes and the signal, and what has happened so far. -/
structure Mapping (R : Type) where
  cursor : ℕ
  failure : Option Thrown
  output : List (Option R)
  lanes : List Lane
  aborted : Bool
  history : List (Occurrence R)

/-- `HARVEST_DEADLINE_EXCEEDED`. -/
def deadlineExceeded : Thrown :=
  .harvest .harvestDeadlineExceeded (js "The DataHub harvest exceeded its hosted execution deadline.")

section Machine

variable {T R : Type}

/-- The start, with that many lanes at most. -/
def Mapping.start (length concurrency : ℕ) : Mapping R where
  cursor := 0
  failure := none
  output := List.replicate length none
  lanes := List.replicate (min concurrency length) .ready
  aborted := false
  history := []

/-- `mapWithConcurrency(items, concurrency, signal, operation)`, up to the first operation. -/
def mapWithConcurrency (items : List T) (concurrency : Number) : Client (Mapping R) :=
  match Harvest.integerOf (.num concurrency) with
  | some (.ofNat (k + 1)) => .ok (Mapping.start items.length (k + 1))
  | _ => .error (.user (.rangeError (js "concurrency must be a positive integer")))

/-- The body of the loop, up to where the lane waits or returns. -/
def Mapping.goOn (s : Mapping R) (length lane : ℕ) : Mapping R :=
  if s.failure.isSome then { s with lanes := s.lanes.set lane .returned }
  else if s.aborted then
    { s with
      failure := some deadlineExceeded
      lanes := s.lanes.set lane .returned
      history := s.history ++ [.expired] }
  else if length ≤ s.cursor then
    { s with
      cursor := s.cursor + 1
      lanes := s.lanes.set lane .returned }
  else
    { s with
      cursor := s.cursor + 1
      lanes := s.lanes.set lane (.awaiting s.cursor)
      history := s.history ++ [.started s.cursor] }

/-- The operation of the lane has settled: its result is written, or its error kept if it is the first. -/
def Mapping.note (s : Mapping R) (lane index : ℕ) (outcome : Except Thrown R) : Mapping R :=
  match outcome with
  | .ok r =>
    { s with
      output := s.output.set index (some r)
      lanes := s.lanes.set lane .ready
      history := s.history ++ [.settled index (.ok r)] }
  | .error e =>
    { s with
      failure := if s.failure.isSome then s.failure else some e
      lanes := s.lanes.set lane .returned
      history := s.history ++ [.settled index (.error e)] }

/-- The lane is resumed with what its operation has settled with. -/
def Mapping.settle (s : Mapping R) (length lane index : ℕ) (outcome : Except Thrown R) : Mapping R :=
  match outcome with
  | .ok r => (s.note lane index (.ok r)).goOn length lane
  | .error e => s.note lane index (.error e)

/-- A step of the lanes over items of that number. -/
inductive Step (length : ℕ) : Mapping R → Mapping R → Prop
  | launch {s : Mapping R} {lane : ℕ} (h : s.lanes[lane]? = some .ready) :
    Step length s (s.goOn length lane)
  | settle {s : Mapping R} {lane index : ℕ} (outcome : Except Thrown R)
    (h : s.lanes[lane]? = some (.awaiting index)) : Step length s (s.settle length lane index outcome)
  | abort {s : Mapping R} : Step length s { s with aborted := true }

/-- What the promise has settled with, once all lanes are at their ends. -/
def Mapping.result (s : Mapping R) : Option (Except Thrown (List (Option R))) :=
  if s.lanes.all (· = .returned) then
    some (match s.failure with
      | some e => .error e
      | none => .ok s.output)
  else none

/-! ## 2. The history -/

/-- The item of a start. -/
def Occurrence.start? : Occurrence R → Option ℕ
  | .started index => some index
  | _ => none

/-- The item of an operation that has settled. -/
def Occurrence.settle? : Occurrence R → Option ℕ
  | .settled index _ => some index
  | _ => none

/-- The failure that something is. -/
def Occurrence.failure? : Occurrence R → Option Thrown
  | .settled _ (.error e) => some e
  | .expired => some deadlineExceeded
  | _ => none

/-- The item that a lane waits for. -/
def Lane.index? : Lane → Option ℕ
  | .awaiting index => some index
  | _ => none

/-- The items whose operations were started, in order. -/
def Mapping.started (s : Mapping R) : List ℕ := s.history.filterMap Occurrence.start?

/-- The items whose operations have settled, in order. -/
def Mapping.settled (s : Mapping R) : List ℕ := s.history.filterMap Occurrence.settle?

/-- The failures, in order. -/
def Mapping.failures (s : Mapping R) : List Thrown := s.history.filterMap Occurrence.failure?

/-- The items whose operations are in flight. -/
def Mapping.inFlight (s : Mapping R) : List ℕ := s.lanes.filterMap Lane.index?

/-- Nothing was started after a failure. -/
def Quiet (history : List (Occurrence R)) : Prop :=
  history.Pairwise fun o o' => o.failure?.isSome = true → o'.start? = none

/-- How the state goes with its history. -/
structure Accounted (length width : ℕ) (s : Mapping R) : Prop where
  started_eq : s.started = List.range (min s.cursor length)
  settled_perm : (s.settled ++ s.inFlight).Perm s.started
  lanes_length : s.lanes.length = width
  failure_eq : s.failure = s.failures.head?
  quiet : Quiet s.history
  output_length : s.output.length = length
  written : ∀ index r, .settled index (.ok r) ∈ s.history → s.output[index]? = some (some r)
  drained : s.failure = none → .returned ∈ s.lanes → length ≤ s.cursor

/-! ## 3. Steps -/

variable {length width lane index : ℕ} {s s' : Mapping R}

/-- The start of a run. -/
theorem accounted_start (length concurrency : ℕ) :
    Accounted length (min concurrency length) (Mapping.start length concurrency : Mapping R) where
  started_eq := by simp [Mapping.started, Mapping.start]
  settled_perm := by
    have hnone : (List.replicate (min concurrency length) Lane.ready).filterMap Lane.index? = [] := by
      rw [List.filterMap_eq_nil_iff]
      intro l hl
      rw [List.eq_of_mem_replicate hl]
      rfl
    simp [Mapping.settled, Mapping.started, Mapping.inFlight, Mapping.start, hnone]
  lanes_length := List.length_replicate
  failure_eq := rfl
  quiet := List.Pairwise.nil
  output_length := List.length_replicate
  written := nofun
  drained := by
    intro _ hreturned
    cases List.eq_of_mem_replicate hreturned

/-- One lane is changed. -/
theorem exists_lane {lanes : List Lane} {l : Lane} (h : lanes[lane]? = some l) :
    ∃ before after, lanes = before ++ l :: after ∧ ∀ l', lanes.set lane l' = before ++ l' :: after := by
  obtain ⟨hlt, hl⟩ := List.getElem?_eq_some_iff.mp h
  refine ⟨lanes.take lane, lanes.drop (lane + 1), ?_, fun l' => ?_⟩
  · rw [← hl, List.getElem_cons_drop, List.take_append_drop]
  · rw [List.set_eq_take_append_cons_drop, if_pos hlt]

/-- A lane that waits for nothing goes to another that waits for nothing. -/
theorem inFlight_set {lanes : List Lane} {l l' : Lane} (h : lanes[lane]? = some l) (hl : l.index? = none)
    (hl' : l'.index? = none) : (lanes.set lane l').filterMap Lane.index? = lanes.filterMap Lane.index? := by
  obtain ⟨before, after, heq, hset⟩ := exists_lane h
  rw [hset, heq]
  simp [List.filterMap_append, hl, hl']

/-- **A lane that is ready goes on.** -/
theorem Accounted.goOn (h : Accounted length width s) (hlane : s.lanes[lane]? = some .ready) :
    Accounted length width (s.goOn length lane) := by
  have hperm : (s.settled ++ (s.lanes.set lane .returned).filterMap Lane.index?).Perm s.started := by
    rw [inFlight_set hlane rfl rfl]
    exact h.settled_perm
  rw [Mapping.goOn]
  split
  case isTrue hfailed =>
    exact { h with
      settled_perm := hperm
      lanes_length := (List.length_set ..).trans h.lanes_length
      drained := fun hnone => by
        rw [hnone] at hfailed
        cases hfailed }
  case isFalse hfailed =>
    have hnone : s.failure = none := by simpa using hfailed
    have hfailures : s.failures = [] := by
      have heq := h.failure_eq
      rw [hnone] at heq
      exact List.head?_eq_none_iff.mp heq.symm
    have hquiet : ∀ o ∈ s.history, o.failure? = none := List.filterMap_eq_nil_iff.mp hfailures
    split
    case isTrue =>
      exact {
        started_eq := by
          rw [← h.started_eq]
          simp [Mapping.started, Occurrence.start?]
        settled_perm := by
          simpa [Mapping.settled, Mapping.started, Mapping.inFlight, Occurrence.settle?, Occurrence.start?,
            List.filterMap_cons] using hperm
        lanes_length := (List.length_set ..).trans h.lanes_length
        failure_eq := by
          change some deadlineExceeded = ((s.history ++ [Occurrence.expired]).filterMap Occurrence.failure?).head?
          rw [List.filterMap_append, List.filterMap_eq_nil_iff.mpr hquiet]
          rfl
        quiet := by
          refine List.pairwise_append.mpr ⟨h.quiet, List.pairwise_singleton _ _, fun o _ o' ho' _ => ?_⟩
          rw [List.mem_singleton.mp ho']
          rfl
        output_length := h.output_length
        written := fun index r hmem => h.written index r (by simpa using hmem)
        drained := nofun }
    case isFalse =>
      split
      case isTrue hcursor =>
        exact { h with
          started_eq := by
            have heq : min (s.cursor + 1) length = min s.cursor length := by omega
            change s.started = List.range (min (s.cursor + 1) length)
            rw [heq, h.started_eq]
          settled_perm := hperm
          lanes_length := (List.length_set ..).trans h.lanes_length
          drained := fun _ _ => Nat.le_succ_of_le hcursor }
      case isFalse hcursor =>
        obtain ⟨before, after, heq, hset⟩ := exists_lane hlane
        exact {
          started_eq := by
            have hmin : min (s.cursor + 1) length = min s.cursor length + 1 := by omega
            have hmin' : min s.cursor length = s.cursor := by omega
            change (s.history ++ [Occurrence.started s.cursor]).filterMap Occurrence.start? = _
            rw [List.filterMap_append, hmin, List.range_succ, ← h.started_eq, hmin']
            rfl
          settled_perm := by
            have hperm := h.settled_perm
            have hbefore : s.inFlight = before.filterMap Lane.index? ++ after.filterMap Lane.index? := by
              rw [Mapping.inFlight, heq]
              simp [List.filterMap_append, List.filterMap_cons, Lane.index?]
            change ((s.history ++ [Occurrence.started s.cursor]).filterMap Occurrence.settle?
                ++ (s.lanes.set lane (.awaiting s.cursor)).filterMap Lane.index?).Perm
              ((s.history ++ [Occurrence.started s.cursor]).filterMap Occurrence.start?)
            rw [hset, List.filterMap_append, List.filterMap_append, List.filterMap_append]
            rw [hbefore] at hperm
            calc _ = s.settled ++ (before.filterMap Lane.index?
                  ++ s.cursor :: after.filterMap Lane.index?) := by
                  simp [Mapping.settled, Occurrence.settle?, Lane.index?]
              List.Perm _ (s.cursor :: (s.settled ++ (before.filterMap Lane.index?
                  ++ after.filterMap Lane.index?))) := by
                rw [← List.append_assoc, ← List.append_assoc]
                exact List.perm_middle
              List.Perm _ (s.cursor :: s.started) := hperm.cons _
              List.Perm _ (s.started ++ [s.cursor]) := (List.perm_append_singleton _ _).symm
          lanes_length := (List.length_set ..).trans h.lanes_length
          failure_eq := by
            change s.failure = ((s.history ++ [Occurrence.started s.cursor]).filterMap Occurrence.failure?).head?
            rw [List.filterMap_append, List.filterMap_eq_nil_iff.mpr hquiet, hnone]
            rfl
          quiet := by
            refine List.pairwise_append.mpr ⟨h.quiet, List.pairwise_singleton _ _, fun o ho o' _ hfail => ?_⟩
            rw [hquiet o ho] at hfail
            cases hfail
          output_length := h.output_length
          written := fun index r hmem => h.written index r (by simpa using hmem)
          drained := fun _ hreturned => by
            refine Nat.le_succ_of_le (h.drained hnone ?_)
            rw [hset, List.mem_append, List.mem_cons] at hreturned
            rw [heq, List.mem_append, List.mem_cons]
            rcases hreturned with hr | hr | hr
            · exact .inl hr
            · cases hr
            · exact .inr (.inr hr) }

/-- A lane waits for an operation that was started and has not settled. -/
theorem Accounted.waits (h : Accounted length width s) (hlane : s.lanes[lane]? = some (.awaiting index)) :
    index < length ∧ index ∉ s.settled := by
  have hflight : index ∈ s.inFlight :=
    List.mem_filterMap.mpr ⟨_, List.mem_of_getElem? hlane, rfl⟩
  have hnodup : (s.settled ++ s.inFlight).Nodup := by
    rw [h.settled_perm.nodup_iff, h.started_eq]
    exact List.nodup_range
  refine ⟨?_, fun hsettled => (List.nodup_append.mp hnodup).2.2 _ hsettled _ hflight rfl⟩
  have hstarted := h.settled_perm.mem_iff.mp (List.mem_append_right _ hflight)
  rw [h.started_eq, List.mem_range] at hstarted
  omega

/-- An operation that settles is in flight no more. -/
theorem Accounted.settled_note (h : Accounted length width s)
    (hlane : s.lanes[lane]? = some (.awaiting index)) {l : Lane} (hl : l.index? = none) :
    ((s.settled ++ [index]) ++ (s.lanes.set lane l).filterMap Lane.index?).Perm s.started := by
  obtain ⟨before, after, heq, hset⟩ := exists_lane hlane
  have hflight : s.inFlight = before.filterMap Lane.index? ++ index :: after.filterMap Lane.index? := by
    rw [Mapping.inFlight, heq, List.filterMap_append]
    rfl
  have hleft : (s.lanes.set lane l).filterMap Lane.index?
      = before.filterMap Lane.index? ++ after.filterMap Lane.index? := by
    rw [hset, List.filterMap_append, List.filterMap_cons, hl]
  have hperm := h.settled_perm
  rw [hflight] at hperm
  rw [hleft, List.append_assoc]
  have hmiddle : (index :: (before.filterMap Lane.index? ++ after.filterMap Lane.index?)).Perm
      (before.filterMap Lane.index? ++ index :: after.filterMap Lane.index?) := List.perm_middle.symm
  exact (hmiddle.append_left s.settled).trans hperm

/-- **An operation settles.** -/
theorem Accounted.note (h : Accounted length width s) (hlane : s.lanes[lane]? = some (.awaiting index))
    (outcome : Except Thrown R) : Accounted length width (s.note lane index outcome) := by
  obtain ⟨hindex, hfresh⟩ := h.waits hlane
  have hstarted : ∀ outcome, (s.history ++ [Occurrence.settled index outcome]).filterMap Occurrence.start?
      = s.started := fun outcome => by
    rw [List.filterMap_append]
    exact List.append_nil _
  have hsettled : ∀ outcome, (s.history ++ [Occurrence.settled index outcome]).filterMap Occurrence.settle?
      = s.settled ++ [index] := fun outcome => List.filterMap_append
  have hquiet : ∀ outcome, Quiet (s.history ++ [Occurrence.settled index outcome]) := by
    refine fun outcome => List.pairwise_append.mpr ⟨h.quiet, List.pairwise_singleton _ _, fun o _ o' ho' _ => ?_⟩
    rw [List.mem_singleton.mp ho']
    rfl
  have hlanes : ∀ l : Lane, (s.lanes.set lane l).length = width := fun l =>
    (List.length_set ..).trans h.lanes_length
  cases outcome with
  | ok r =>
    exact {
      started_eq := (hstarted _).trans h.started_eq
      settled_perm := by
        change ((s.history ++ [Occurrence.settled index (.ok r)]).filterMap Occurrence.settle?
          ++ (s.lanes.set lane .ready).filterMap Lane.index?).Perm
            ((s.history ++ [Occurrence.settled index (.ok r)]).filterMap Occurrence.start?)
        rw [hstarted, hsettled]
        exact h.settled_note hlane rfl
      lanes_length := hlanes _
      failure_eq := by
        change s.failure = ((s.history ++ [Occurrence.settled index (.ok r)]).filterMap Occurrence.failure?).head?
        rw [List.filterMap_append]
        exact h.failure_eq.trans (congrArg List.head? (List.append_nil _).symm)
      quiet := hquiet _
      output_length := (List.length_set ..).trans h.output_length
      written := by
        intro j r' hmem
        rcases List.mem_append.mp hmem with hmem | hmem
        · have hne : index ≠ j := by
            rintro rfl
            exact hfresh (List.mem_filterMap.mpr ⟨_, hmem, rfl⟩)
          exact (List.getElem?_set_ne hne).trans (h.written j r' hmem)
        · obtain ⟨rfl, heq⟩ := Occurrence.settled.inj (List.mem_singleton.mp hmem)
          obtain rfl := Except.ok.inj heq
          exact List.getElem?_set_self (by rw [h.output_length]; exact hindex)
      drained := by
        intro hnone hreturned
        refine h.drained hnone ?_
        obtain ⟨before, after, heq, hset⟩ := exists_lane hlane
        change Lane.returned ∈ s.lanes.set lane .ready at hreturned
        rw [hset, List.mem_append, List.mem_cons] at hreturned
        rw [heq, List.mem_append, List.mem_cons]
        rcases hreturned with hr | hr | hr
        · exact .inl hr
        · cases hr
        · exact .inr (.inr hr) }
  | error e =>
    exact {
      started_eq := (hstarted _).trans h.started_eq
      settled_perm := by
        change ((s.history ++ [Occurrence.settled index (.error e)]).filterMap Occurrence.settle?
          ++ (s.lanes.set lane .returned).filterMap Lane.index?).Perm
            ((s.history ++ [Occurrence.settled index (.error e)]).filterMap Occurrence.start?)
        rw [hstarted, hsettled]
        exact h.settled_note hlane rfl
      lanes_length := hlanes _
      failure_eq := by
        change (if s.failure.isSome then s.failure else some e)
          = ((s.history ++ [Occurrence.settled index (.error e)]).filterMap Occurrence.failure?).head?
        have hfailure := h.failure_eq
        rw [List.filterMap_append]
        change _ = (s.failures ++ [e]).head?
        cases hf : s.failures with
        | nil =>
          rw [hf] at hfailure
          rw [hfailure]
          rfl
        | cons f fs =>
          rw [hf] at hfailure
          rw [hfailure]
          rfl
      quiet := hquiet _
      output_length := h.output_length
      written := by
        intro j r' hmem
        rcases List.mem_append.mp hmem with hmem | hmem
        · exact h.written j r' hmem
        · cases (Occurrence.settled.inj (List.mem_singleton.mp hmem)).2
      drained := by
        intro hnone
        change (if s.failure.isSome then s.failure else some e) = none at hnone
        split at hnone
        case isTrue hsome =>
          rw [hnone] at hsome
          cases hsome
        case isFalse => cases hnone }

/-- **A step keeps the account.** -/
theorem Accounted.step (h : Accounted length width s) (hstep : Step length s s') :
    Accounted length width s' := by
  cases hstep with
  | launch hlane => exact h.goOn hlane
  | settle outcome hlane =>
    cases outcome with
    | error e => exact h.note hlane (.error e)
    | ok r =>
      refine (h.note hlane (.ok r)).goOn ?_
      exact List.getElem?_set_self (List.getElem?_eq_some_iff.mp hlane).1
  | abort => exact { h with }

/-! ## 4. Runs -/

/-- A state that a run of the lanes comes to. -/
def Reached (length : ℕ) (s₀ s : Mapping R) : Prop := Relation.ReflTransGen (Step length) s₀ s

theorem Accounted.reached {s₀ : Mapping R} (h : Accounted length width s₀) (hs : Reached length s₀ s) :
    Accounted length width s := by
  induction hs with
  | refl => exact h
  | tail _ hstep ih => exact ih.step hstep

/-- What holds of a state: each operation was started at most once, so many are in flight, none was
started after a failure, and the promise has settled as it should. -/
structure Kept (length concurrency : ℕ) (s : Mapping R) : Prop where
  once : s.started.Nodup
  bounded : s.inFlight.length ≤ concurrency
  quiet : Quiet s.history
  rejected : ∀ e, s.result = some (.error e) → s.failures.head? = some e ∧ s.settled.Perm s.started
  resolved : ∀ output, s.result = some (.ok output) → s.failures = [] ∧ output.length = length
    ∧ ∀ index < length, ∃ r, output[index]? = some (some r) ∧ .settled index (.ok r) ∈ s.history
  pending : s.result = none → ∃ lane : ℕ, s.lanes[lane]? = some Lane.ready
    ∨ ∃ index, s.lanes[lane]? = some (Lane.awaiting index)

/-- Where all lanes are at their ends, nothing is in flight. -/
theorem Accounted.settled_of_returned (h : Accounted length width s) (hall : ∀ l ∈ s.lanes, l = .returned) :
    s.settled.Perm s.started := by
  have hnone : s.inFlight = [] := by
    refine List.filterMap_eq_nil_iff.mpr fun l hl => ?_
    rw [hall l hl]
    rfl
  have hperm := h.settled_perm
  rwa [hnone, List.append_nil] at hperm

theorem result_eq_some {outcome : Except Thrown (List (Option R))} (h : s.result = some outcome) :
    (∀ l ∈ s.lanes, l = .returned) ∧ outcome = match s.failure with
      | some e => .error e
      | none => .ok s.output := by
  rw [Mapping.result] at h
  split at h
  case isTrue hall =>
    exact ⟨by simpa using hall, (Option.some.inj h).symm⟩
  case isFalse => cases h

theorem Accounted.kept {concurrency : ℕ} (h : Accounted length (min concurrency length) s)
    (hpos : 0 < concurrency) : Kept length concurrency s where
  once := by
    rw [h.started_eq]
    exact List.nodup_range
  bounded := by
    have hle := List.length_filterMap_le Lane.index? s.lanes
    rw [h.lanes_length] at hle
    exact hle.trans (Nat.min_le_left _ _)
  quiet := h.quiet
  rejected := by
    intro e hresult
    obtain ⟨hall, heq⟩ := result_eq_some hresult
    refine ⟨?_, h.settled_of_returned hall⟩
    rw [← h.failure_eq]
    cases hf : s.failure with
    | none =>
      rw [hf] at heq
      cases heq
    | some e' =>
      rw [hf] at heq
      rw [Except.error.inj heq]
  resolved := by
    intro output hresult
    obtain ⟨hall, heq⟩ := result_eq_some hresult
    cases hf : s.failure with
    | some e =>
      rw [hf] at heq
      cases heq
    | none =>
      rw [hf] at heq
      obtain rfl := Except.ok.inj heq
      have hfailures : s.failures = [] := by
        have hhead := h.failure_eq
        rw [hf] at hhead
        exact List.head?_eq_none_iff.mp hhead.symm
      refine ⟨hfailures, h.output_length, fun index hindex => ?_⟩
      -- some lane has come to its end, so the cursor has passed all items
      have hcursor : length ≤ s.cursor := by
        have hlength := h.lanes_length
        cases hlanes : s.lanes with
        | nil =>
          rw [hlanes, List.length_nil] at hlength
          omega
        | cons l ls =>
          refine h.drained hf ?_
          rw [← hall l (hlanes ▸ .head _), hlanes]
          exact .head _
      have hsettled : index ∈ s.settled := by
        rw [(h.settled_of_returned hall).mem_iff, h.started_eq, List.mem_range]
        omega
      obtain ⟨o, ho, hindex⟩ := List.mem_filterMap.mp hsettled
      cases o with
      | started | expired => cases hindex
      | settled j outcome =>
        obtain rfl := Option.some.inj hindex
        cases outcome with
        | error e => cases List.filterMap_eq_nil_iff.mp hfailures _ ho
        | ok r => exact ⟨r, h.written _ r ho, ho⟩
  pending := by
    intro hresult
    rw [Mapping.result] at hresult
    split at hresult
    case isTrue => cases hresult
    case isFalse hall =>
      obtain ⟨l, hl, hne⟩ : ∃ l ∈ s.lanes, l ≠ .returned := by simpa using hall
      obtain ⟨lane, hlane⟩ := List.mem_iff_getElem?.mp hl
      refine ⟨lane, ?_⟩
      cases l with
      | ready => exact .inl hlane
      | awaiting index => exact .inr ⟨index, hlane⟩
      | returned => exact absurd rfl hne

/-- One lane over two items: the first operation succeeds, the second fails. -/
def failingRun : Mapping Bool :=
  (((Mapping.start 2 1).goOn 2 0).settle 2 0 0 (.ok true)).settle 2 0 1 (.error (.rejected (js "reset")))

theorem failingRun_reached : Reached 2 (Mapping.start 2 1) failingRun :=
  ((Relation.ReflTransGen.refl.tail (Step.launch rfl)).tail (Step.settle _ rfl)).tail (Step.settle _ rfl)

end Machine

end Harvest
