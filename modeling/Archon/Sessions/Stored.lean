/-
# What is stored of a session, in order

What protects a stored session is the condition on its revision, and that `tick` refuses a time before
the last update.  Two writes go past the latter: `runtime-v2.js` extends a session without looking at
when it was last updated, and `stopSession` reads the clock a second time before it records that the
runtime could not be told.  As long as no write is made at a time before the last update of what it
writes over (`Timely`), what is stored stays in order (`stored_orderly`).  A run of a single invocation
whose clock is behind shows what happens otherwise (`stored_backwards`).
-/
import Archon.Sessions.Interleaved

namespace Sessions

open Ecma Ecma.Value Remediation Runtime Resumption Resumption.Program

/-! ## 1. Order -/

section Order

variable (P : Platform)

/-- The session in an item. -/
def valueOf (item : Item) : Value := (parse item.payload).getD .undefined

/-- The time of a member of it. -/
def memberTime (key : String) (item : Item) : Int := timeOf P ((valueOf item).get (js key))

/-- The session in the item is active. -/
def isActive (item : Item) : Bool := Deployed.stateIn (valueOf item) [.ACTIVE]

/-- **What is stored of a session, the newest first, is in order.** -/
structure Orderly (items : List Item) : Prop where
  /-- Both readers accept every item. -/
  accepted : ∀ item ∈ items, Deployed.validateSession P (valueOf item) = .ok (valueOf item)
    ∧ parseSessionItem P item none = .ok (valueOf item)
  grows : items.IsChain fun new old => new.revision = old.revision + 1
  clock : items.Pairwise fun new old => memberTime P "updatedAt" old ≤ memberTime P "updatedAt" new
  idle : ∀ item ∈ items, memberTime P "idleExpiresAt" item ≤ memberTime P "hardExpiresAt" item
  /-- A session that is not active any more does not become active again. -/
  left : ∀ new mid old, [new, mid, old].Sublist items → isActive old = true → isActive mid = false →
    isActive new = false

/-- What both Lambdas leave of a session: sessions that are kept, each of which evolved from the one
before it. -/
def Line (id : Text) (items : List Item) : Prop :=
  ∃ (hash : Text) (sessions : List RuntimeSession), items = sessions.map (itemOf · hash)
    ∧ isDigestText hash = true ∧ (∀ s ∈ sessions, Kept P s ∧ s.sessionId = id)
    ∧ sessions.IsChain fun new old => Evolves P old new

/-- One session after another. -/
structure Later (new old : RuntimeSession) : Prop where
  follows : Extends old new
  revision : old.revision < new.revision
  clock : timeOf P (.str old.updatedAt) ≤ timeOf P (.str new.updatedAt)

variable {P}

theorem later_of_evolves {new old : RuntimeSession} (h : Evolves P old new) : Later P new old := by
  obtain ⟨now, updated, hupdated, hle, hchange, -⟩ := h
  refine ⟨hchange.extends, ?_, ?_⟩
  · rw [revision_of_change hchange]
    exact Nat.lt_succ_self _
  · rw [timeOf_str hupdated, hchange.updatedAt, timeOf_str now.exact]
    exact hle

theorem Later.trans {a b c : RuntimeSession} (h : Later P a b) (h' : Later P b c) : Later P a c :=
  ⟨h'.follows.trans h.follows, h'.revision.trans h.revision, h'.clock.trans h.clock⟩

instance : IsTrans RuntimeSession (Later P) := ⟨fun _ _ _ => Later.trans⟩

theorem pairwise_later {sessions : List RuntimeSession}
    (h : sessions.IsChain fun new old => Evolves P old new) : sessions.Pairwise (Later P) :=
  List.isChain_iff_pairwise.mp (h.imp fun _ _ => later_of_evolves)

theorem valueOf_itemOf {s : RuntimeSession} {hash : Text} (h : s.revision ≤ maxSafeInteger + 1) :
    valueOf (itemOf s hash) = s.toValue := by
  rw [valueOf, itemOf, parse_printed h, Option.getD_some]

/-- An active session that is not active later is in a later phase. -/
theorem not_active_again {new mid old : RuntimeSession} (h : Later P new mid) (h' : Later P mid old)
    (hold : old.state = .ACTIVE) (hmid : mid.state ≠ .ACTIVE) : new.state ≠ .ACTIVE := by
  have hfirst := h'.follows.phase
  have hsecond := h.follows.phase
  intro hnew
  rw [hold] at hfirst
  rw [hnew] at hsecond
  cases hstate : mid.state with
  | ACTIVE => exact hmid hstate
  | STARTING =>
    rw [hstate] at hfirst
    exact absurd hfirst (by decide)
  | EXPIRED | FAILED | STOPPING | STOPPED =>
    rw [hstate] at hsecond
    exact absurd hsecond (by decide)

theorem Line.orderly {id : Text} {items : List Item} (h : Line P id items) : Orderly P items := by
  obtain ⟨hash, sessions, rfl, hhash, hkept, hchain⟩ := h
  have hvalue : ∀ s ∈ sessions, valueOf (itemOf s hash) = s.toValue := fun s hs =>
    valueOf_itemOf (Nat.le_succ_of_le (hkept s hs).1.valid.revision)
  have hlater := pairwise_later hchain
  constructor
  · intro item hitem
    obtain ⟨s, hs, rfl⟩ := List.mem_map.mp hitem
    rw [hvalue s hs]
    exact ⟨validated (hkept s hs).1.valid, parseSessionItem_kept (hkept s hs).1 hhash⟩
  · rw [List.isChain_map]
    refine hchain.imp fun new old hev => ?_
    obtain ⟨now, updated, -, -, hchange, -⟩ := hev
    change new.revision = old.revision + 1
    exact revision_of_change hchange
  · rw [List.pairwise_map]
    refine hlater.imp_of_mem fun {new old} hnew hold h => ?_
    rw [memberTime, memberTime, hvalue new hnew, hvalue old hold, RuntimeSession.get_updatedAt,
      RuntimeSession.get_updatedAt]
    exact h.clock
  · intro item hitem
    obtain ⟨s, hs, rfl⟩ := List.mem_map.mp hitem
    obtain ⟨t, hchron⟩ := (hkept s hs).1.valid.chronology
    simp only [chronologyInvalid, Bool.or_eq_false_iff, decide_eq_false_iff_not, not_lt] at hchron
    rw [memberTime, memberTime, hvalue s hs, RuntimeSession.get_idleExpiresAt,
      RuntimeSession.get_hardExpiresAt, timeOf_str t.idle_eq, timeOf_str t.hard_eq]
    exact hchron.1.1.2
  · intro new mid old hsub hold hmid
    obtain ⟨three, hthree, hmap⟩ := List.sublist_map_iff.mp hsub
    have hpairs := hlater.sublist hthree
    have hlength : three.length = 3 := by
      rw [← List.length_map, ← hmap]
      rfl
    obtain ⟨a, b, c, rfl⟩ := List.length_eq_three.mp hlength
    obtain ⟨hnew, hmap⟩ := List.cons.inj hmap
    obtain ⟨hmid', hmap⟩ := List.cons.inj hmap
    obtain ⟨hold', -⟩ := List.cons.inj hmap
    rw [hold'] at hold
    rw [hmid'] at hmid
    rw [hnew]
    have ha := hvalue a (hthree.subset (by simp))
    have hb := hvalue b (hthree.subset (by simp))
    have hc := hvalue c (hthree.subset (by simp))
    rw [isActive, ha, stateIn_toValue, decide_eq_false_iff_not, List.mem_singleton]
    rw [isActive, hb, stateIn_toValue, decide_eq_false_iff_not, List.mem_singleton] at hmid
    rw [isActive, hc, stateIn_toValue, decide_eq_true_eq, List.mem_singleton] at hold
    simp only [List.pairwise_cons, List.mem_cons, List.not_mem_nil, or_false, forall_eq_or_imp,
      forall_eq] at hpairs
    exact not_active_again hpairs.1.1 hpairs.2.1 hold hmid

end Order

/-! ## 2. Writes in time -/

section Runs

variable {ι : Type} [DecidableEq ι] {P : Platform}

/-- **No write is made at a time before the last update of what it writes over**, nor so late that the
instants are not written with a year of four digits, nor once the revision is exhausted. -/
def Timely (before after : SessionPool ι P) : Prop :=
  (∀ i id expected payload next r,
    after.history i = before.history i ++ [⟨.updateSession id expected payload next, r⟩] →
    ∀ x, Read P (before.history i) x → InEra P x ∧ ∀ item, (before.shared.contents id).head? = some item →
      item.revision = expected →
        memberTime P "updatedAt" item ≤ x.ms ∧ item.revision < maxSafeInteger)
  ∧ ∀ i id item r, after.history i = before.history i ++ [⟨.putSession id item, r⟩] →
    ∀ x, Read P (before.history i) x → InEra P x

variable {σ σ' : Store} {h : ι → List (SessionEvent P)} {i : ι}

theorem line_initial {s : Store} (hs : Initial P s) (id : Text) : Line P id (s.contents id) := by
  rcases hs.contents id with hnone | ⟨t, hash, hone, hid, hkept, hhash⟩
  · have hdigest : isDigestText (js "sha256:" ++ List.replicate 64 0x30) = true := by decide
    exact ⟨_, [], hnone, hdigest, fun _ hmem => absurd hmem List.not_mem_nil, .nil⟩
  · refine ⟨hash, [t], hone, hhash, fun s hs => ?_, .singleton t⟩
    obtain rfl := List.mem_singleton.mp hs
    exact ⟨hkept, hid⟩

/-- The session that is known with the revision of the newest item is the one in the newest item. -/
theorem newest_known {hash hash' : Text} {s t : RuntimeSession} {rest : List RuntimeSession}
    (hkept : ∀ u ∈ s :: rest, Kept P u)
    (hchain : (s :: rest).IsChain fun new old => Evolves P old new) (hsafe : t.revision ≤ maxSafeInteger)
    (hmem : itemOf t hash ∈ (s :: rest).map (itemOf · hash')) (hrevision : s.revision = t.revision) :
    t = s := by
  obtain ⟨u, hu, heq⟩ := List.mem_map.mp hmem
  have hsame : u.revision = t.revision := congrArg Item.revision heq
  have hlater := List.pairwise_cons.mp (pairwise_later hchain)
  rcases List.mem_cons.mp hu with rfl | hrest
  · exact printed_inj (hkept u hu).valid hsafe (congrArg Item.payload heq).symm
  · have hlt := (hlater.1 u hrest).revision
    omega

omit [DecidableEq ι] in
/-- **One call keeps the line of every session.** -/
theorem line_step (k : Traced P σ h) (hline : ∀ id, Line P id (σ.contents id)) {e : Call}
    {r : Answer P e} (hlegal : Legal P (h i) e) (henv : σ.Env e r σ')
    (hupdate : ∀ id expected payload next r',
      (⟨e, r⟩ : SessionEvent P) = ⟨.updateSession id expected payload next, r'⟩ →
      ∀ x, Read P (h i) x → InEra P x ∧ ∀ item, (σ.contents id).head? = some item →
        item.revision = expected →
          memberTime P "updatedAt" item ≤ x.ms ∧ item.revision < maxSafeInteger)
    (hput : ∀ id item r', (⟨e, r⟩ : SessionEvent P) = ⟨.putSession id item, r'⟩ →
      ∀ x, Read P (h i) x → InEra P x) (id : Text) : Line P id (σ'.contents id) := by
  cases e with
  | now =>
    obtain rfl := henv
    exact hline id
  | getSession =>
    obtain ⟨rfl, -⟩ := henv
    exact hline id
  | getHealth =>
    obtain rfl := henv
    exact hline id
  | getLease =>
    obtain ⟨rfl, -⟩ := henv
    exact hline id
  | startExecution =>
    obtain rfl := henv
    exact hline id
  | putSession id' item =>
    rcases henv with ⟨rfl, -⟩ | ⟨hnone, rfl⟩
    · exact hline id
    · obtain ⟨s, hash, x, hx, rfl, hhash, rfl, hvalid, hdated⟩ := hlegal
      by_cases hid : id = s.sessionId
      · subst hid
        refine ⟨hash, [s], ?_, hhash, fun t ht => ?_, .singleton s⟩
        · rw [Store.contents_write_self, hnone]
          rfl
        · obtain rfl := List.mem_singleton.mp ht
          exact ⟨⟨hvalid, hdated (hput _ _ _ rfl x hx)⟩, rfl⟩
      · rw [Store.contents_write_other _ _ hid]
        exact hline id
  | updateSession id' expected payload next =>
    rcases henv with ⟨rfl, -⟩ | ⟨old, older, hcontents, hrevision, rfl⟩
    · exact hline id
    · by_cases hid : id = id'
      · subst hid
        obtain ⟨s, t, x, hx, hknown, hrewrites, rfl, rfl, rfl, rfl⟩ := hlegal
        obtain ⟨hash', hmem⟩ := k.known i _ _ _ hknown
        obtain ⟨hash, sessions, hsessions, hhash, hkept, hchain⟩ := hline s.sessionId
        rw [hcontents] at hsessions hmem
        cases sessions with
        | nil => cases hsessions
        | cons s₀ rest =>
          obtain ⟨hold, holder⟩ := List.cons.inj hsessions
          rw [hsessions] at hmem
          have hsame : s = s₀ := @newest_known _ hash' _ _ _ _ (fun u hu => (hkept u hu).1) hchain
            hrewrites.safe hmem (by rw [← hrevision, hold]; rfl)
          subst hsame
          have hs := (hkept s (List.mem_cons_self ..)).1
          obtain ⟨hera, htime⟩ := hupdate _ _ _ _ _ rfl x hx
          obtain ⟨hle, hlt⟩ := htime old (by rw [hcontents]; rfl) hrevision
          obtain ⟨times, -⟩ := hs.valid.chronology
          rw [hold, memberTime, valueOf_itemOf (Nat.le_succ_of_le hrewrites.safe),
            RuntimeSession.get_updatedAt, timeOf_str times.updated_eq] at hle
          rw [hold] at hlt
          have hproposes := hrewrites.proposes hs.valid
          have hvalid := hproposes.valid _ times.updated_eq hle hlt hera
          have hdated := dated_of_change hs.dated hera hproposes.change hproposes.idle
          refine ⟨hash, t :: s :: rest, ?_, hhash, ?_, .cons_cons ?_ hchain⟩
          · rw [Store.contents_write_self, hcontents, hsessions, hold]
            rfl
          · intro u hu
            rcases List.mem_cons.mp hu with rfl | hu
            · exact ⟨⟨hvalid, hdated⟩, hrewrites.sessionId⟩
            · exact hkept u hu
          · exact ⟨x, times.updated, times.updated_eq, hle, hproposes.change, hvalid⟩
      · rw [Store.contents_write_other _ _ hid]
        exact hline id

/-- The table and the invocations, as long as every write is made in time. -/
structure InLine (P : Platform) (σ : Store) (h : ι → List (SessionEvent P)) : Prop where
  traced : Traced P σ h
  line : ∀ id, Line P id (σ.contents id)

theorem inLine_run (tasks : ι → Request) {start : Store} (hstart : Initial P start)
    {Q : SessionPool ι P}
    (hrun : Pool.Run Store.Env Timely (Pool.start start fun i => (tasks i).program P) Q) :
    InLine P Q.shared Q.history := by
  refine (Pool.invariant hrun (fun i => (tasks i).obedient.obeys)
    ⟨traced_initial hstart, line_initial hstart⟩ ?_).1
  intro Q i e k r s hk _ hlegal henv hok
  have hlegal := hlegal (hk.traced.proper i)
  have hself : ∀ ev : SessionEvent P, (⟨e, r⟩ : SessionEvent P) = ev →
      (Q.after i e r s (k r)).history i = Q.history i ++ [ev] := by
    rintro ev rfl
    simp [Pool.after]
  refine ⟨hk.traced.step hlegal henv, line_step hk.traced hk.line hlegal henv ?_ ?_⟩
  · intro id expected payload next r' heq
    exact hok.1 i id expected payload next r' (hself _ heq)
  · intro id item r' heq
    exact hok.2 i id item r' (hself _ heq)

/-- **What is stored of every session is in order, in every state of a run** of any number of invocations
of the two Lambdas, as long as every write is made in time. -/
theorem stored_orderly (tasks : ι → Request) {start : Store} (hstart : Initial P start)
    {Q : SessionPool ι P}
    (hrun : Pool.Run Store.Env Timely (Pool.start start fun i => (tasks i).program P) Q) (id : Text) :
    Orderly P (Q.shared.contents id) :=
  ((inLine_run tasks hstart hrun).line id).orderly

end Runs

/-! ## 3. An activity whose clock is behind -/

section Behind

/-- A binding to the Cloud runtime. -/
def heldBinding : RuntimeBinding where
  profileId := .cloud
  generation := js "g1"
  capabilityDigest := js "sha256:4cfff935c9aabd3fdd9a42a2446043f45b67b6eb447a101fb8c35a0d1c2f8cfc"
  resolution := .auto
  boundAt := js "2026-07-14T10:00:00.000Z"
  leaseExpiresAt := js "2026-07-14T12:00:00.000Z"

/-- An active session, extended at 10:20. -/
def held : RuntimeSession where
  sessionId := sampleId
  requestedProfile := .auto
  binding := heldBinding
  state := .ACTIVE
  createdAt := js "2026-07-14T10:00:00.000Z"
  updatedAt := js "2026-07-14T10:20:00.000Z"
  lastActivityAt := js "2026-07-14T10:20:00.000Z"
  idleExpiresAt := js "2026-07-14T10:50:00.000Z"
  hardExpiresAt := js "2026-07-14T12:00:00.000Z"
  revision := 2
  endReason := none
  failureCode := none

/-- The digest of its owner. -/
def heldOwner : Text := js "sha256:" ++ List.replicate 64 0x61

/-- The record of the Cloud runtime, checked at some time. -/
def heldHealth (checkedAt : String) : Value := .object
  [("pk", .lit "RUNTIME#cloud"), ("sk", .lit "HEALTH"), ("status", .lit "READY"),
    ("generation", .lit "g1"), ("capabilityDigest", .str heldBinding.capabilityDigest),
    ("capabilities", .object (Cloud.CAPABILITY_KEYS.map fun key => (key, .bool true))),
    ("checkedAt", .lit checkedAt)]

/-- One session is stored. -/
def storeOf (s : RuntimeSession) : Store :=
  ⟨fun id => if id = sampleId then [itemOf s heldOwner] else [], []⟩

theorem heldBinding_valid : heldBinding.Valid Platform.node where
  generation := by decide
  capabilityDigest := by decide
  lease := ⟨⟨js "2026-07-14T10:00:00.000Z", 1784023200000, by decide⟩,
    ⟨js "2026-07-14T12:00:00.000Z", 1784030400000, by decide⟩, rfl, rfl, by decide, by decide⟩

def heldTimes : Times Platform.node held where
  created := 1784023200000
  updated := 1784024400000
  lastActivity := 1784024400000
  idle := 1784026200000
  hard := 1784030400000
  created_eq := by decide
  updated_eq := by decide
  lastActivity_eq := by decide
  idle_eq := by decide
  hard_eq := by decide

theorem held_kept : Kept Platform.node held where
  valid := {
    sessionId := by decide
    binding := heldBinding_valid
    request := by decide
    createdAt := rfl
    hardExpiresAt := rfl
    chronology := ⟨heldTimes, by decide⟩
    revision := by decide
    terminal := rfl }
  dated := ⟨by decide, by decide, by decide, by decide, by decide⟩

theorem storeOf_contents (s : RuntimeSession) : (storeOf s).contents sampleId = [itemOf s heldOwner] := by
  simp [storeOf]

theorem storeOf_other (s : RuntimeSession) {id : Text} (hid : id ≠ sampleId) :
    (storeOf s).contents id = [] := by
  simp [storeOf, hid]

theorem heldOwner_digest : isDigestText heldOwner = true := by decide

theorem storeOf_initial {s : RuntimeSession} (hid : s.sessionId = sampleId)
    (hs : Kept Platform.node s) : Initial Platform.node (storeOf s) where
  contents := fun id => by
    by_cases hsame : id = sampleId
    · subst hsame
      exact Or.inr ⟨s, heldOwner, storeOf_contents s, hid, hs, heldOwner_digest⟩
    · exact Or.inl (storeOf_other s hsame)
  executions := rfl

/-- A run is started, which extends the session. -/
def heldTask : Request := .run sampleId heldOwner

/-- The run of the invocation, of which there is one. -/
def heldPool : SessionPool Unit Platform.node :=
  Pool.start (storeOf held) fun _ => heldTask.program Platform.node

variable {checkedAt : String} {x : Stamp Platform.node}

/-- What the invocation calls, and what it is told. -/
def heldEvents (checkedAt : String) (x : Stamp Platform.node) : List (SessionEvent Platform.node) :=
  [⟨.now, x⟩, ⟨.getSession sampleId, some (some (itemOf held heldOwner))⟩,
    ⟨.getHealth .cloud, some (some (heldHealth checkedAt))⟩,
    ⟨.updateSession sampleId 2 (printed (renewed Platform.node held x).toValue) 3, true⟩]

/-- The clock is read once. -/
theorem heldEvents_now {y : Stamp Platform.node}
    (hmem : (⟨.now, y⟩ : SessionEvent Platform.node) ∈ heldEvents checkedAt x) : y = x := by
  rcases List.mem_cons.mp hmem with heq | hmem
  · exact eq_of_heq (Sigma.mk.inj heq).2
  · rcases List.mem_cons.mp hmem with heq | hmem
    · cases heq
    · rcases List.mem_cons.mp hmem with heq | hmem
      · cases heq
      · cases List.mem_singleton.mp hmem

/-- The time is one at which the session and the record of the runtime are taken to be valid. -/
structure Taken (checkedAt : String) (x : Stamp Platform.node) : Prop where
  active : activeAt Platform.node held.toValue x = true
  health : (Cloud.healthCapabilities Platform.node (heldHealth checkedAt) (textOf held.toValue "sessionId")
    (bindingOf held.toValue) x.ms).isNone = false

theorem reaches_call {P : Platform} {α : Type} {e : Call} {f : Answer P e → Part P α} (r : Answer P e)
    {h : List (SessionEvent P)} {q : Part P α} (hf : Reaches (f r) h q) :
    Reaches (perform e >>= f : Part P α) (⟨e, r⟩ :: h) q :=
  reaches_perform r hf

theorem held_reaches (hx : Taken checkedAt x) :
    ∃ r, Reaches (heldTask.program Platform.node) (heldEvents checkedAt x)
    (.done r) := by
  have hread : parseSessionItem Platform.node (itemOf held heldOwner) (some heldOwner)
      = .ok held.toValue := by
    have hany : ((some heldOwner).any fun owner => (itemOf held heldOwner).principalHash ≠ owner)
        = false := by
      decide
    have hkept := parseSessionItem_kept held_kept heldOwner_digest
    rw [parseSessionItem] at hkept ⊢
    rw [hany]
    exact hkept
  have hcloud : isBoundTo held.toValue "cloud" = true := by decide
  have hcore : isBoundTo held.toValue "core" = false := by decide
  have hid : textOf held.toValue "sessionId" = sampleId := textOf_sessionId held
  have hrevision : revisionOf held.toValue = 2 := revisionOf_toValue (by decide)
  have hwritten : extended Platform.node held.toValue x = (renewed Platform.node held x).toValue :=
    extended_toValue (by decide) rfl
  have hprogram : heldTask.program Platform.node = startRun Platform.node sampleId heldOwner := rfl
  refine ⟨.ok (renewed Platform.node held x).toValue, ?_⟩
  rw [hprogram, startRun, heldEvents]
  refine reaches_call (P := Platform.node) (e := Call.now) x ?_
  rw [if_neg (by decide)]
  refine reaches_call (P := Platform.node) (e := Call.getSession sampleId) _ ?_
  dsimp only
  rw [hread, lift_ok_bind, hx.active, Bool.not_true, if_neg Bool.false_ne_true, hcloud, if_pos rfl]
  refine reaches_call (P := Platform.node) (e := Call.getHealth .cloud) _ ?_
  dsimp only
  rw [hx.health, if_neg Bool.false_ne_true, extendSession, hcore, if_neg Bool.false_ne_true, hid,
    hrevision, hwritten]
  exact reaches_call (P := Platform.node) (e := Call.updateSession sampleId 2 _ 3) _ (.refl _)

/-- The table, after the write. -/
def extendedStore (x : Stamp Platform.node) : Store :=
  (storeOf held).write sampleId ⟨printed (renewed Platform.node held x).toValue, 3, heldOwner⟩

theorem held_moves (checkedAt : String) (x : Stamp Platform.node) :
    Pool.Moves Store.Env (storeOf held) (heldEvents checkedAt x) (extendedStore x) := by
  have hread : (storeOf held).Env (P := Platform.node) (.getSession sampleId)
      (some (some (itemOf held heldOwner))) (storeOf held) :=
    ⟨rfl, Or.inr (by rw [storeOf_contents]; rfl)⟩
  have hwritten : (storeOf held).Env (P := Platform.node) (.updateSession sampleId 2
      (printed (renewed Platform.node held x).toValue) 3) true (extendedStore x) :=
    Or.inr ⟨itemOf held heldOwner, [], storeOf_contents held, rfl, rfl⟩
  exact .cons (e := Call.now) rfl (.cons hread (.cons (e := Call.getHealth .cloud) rfl
    (.cons hwritten (.nil _))))

theorem extendedStore_contents (x : Stamp Platform.node) : (extendedStore x).contents sampleId
    = [itemOf (renewed Platform.node held x) heldOwner, itemOf held heldOwner] := by
  rw [extendedStore, Store.contents_write_self, storeOf_contents]
  rfl

/-- At 10:21 the write is in time. -/
def promptTime : Stamp Platform.node := ⟨js "2026-07-14T10:21:00.000Z", 1784024460000, by decide⟩

/-- At 9:58 it is not. -/
def earlyTime : Stamp Platform.node := ⟨js "2026-07-14T09:58:00.000Z", 1784023080000, by decide⟩

/-- The digest of the binding is that of all capabilities. -/
theorem heldBinding_digest : Cloud.runDigest Platform.node (js "cloud") (js "g1")
    (.object (Cloud.CAPABILITY_KEYS.map fun key => (key, .bool true)))
      = some heldBinding.capabilityDigest := by
  rw [Cloud.runDigest]
  simp only [Cloud.capabilityRecord, Cloud.canonicalCapabilities, Cloud.CAPABILITY_KEYS, heldBinding,
    object, lit, List.map_cons, List.map_nil]
  repeat rw [js_ofList]
  decide +kernel

/-- The record is accepted while it is not too old. -/
theorem heldHealth_ready (checkedAt : String) (now : Int)
    (hchecked : Control.instant Platform.node (js checkedAt) = true)
    (hfresh : ((Platform.node.dateParse (js checkedAt)).any fun checked =>
      checked ≤ now && now - checked ≤ Cloud.RUN_MAX_AGE_MS) = true) :
    (Cloud.healthCapabilities Platform.node (heldHealth checkedAt) (textOf held.toValue "sessionId")
      (bindingOf held.toValue) now).isNone = false := by
  have hprofile : (bindingOf held.toValue).profileId = js "cloud" := rfl
  have hgeneration : (bindingOf held.toValue).generation = js "g1" := rfl
  have hdigest : (bindingOf held.toValue).capabilityDigest = heldBinding.capabilityDigest := rfl
  have hown : ((heldHealth checkedAt).get (js "sessionId")).isNullish = true := by
    rw [heldHealth, get_object]
    rfl
  have hsame : (Value.str heldBinding.capabilityDigest).isText heldBinding.capabilityDigest = true :=
    isText_iff.mpr rfl
  have hwhen : (heldHealth checkedAt).get (js "checkedAt") = lit checkedAt := by
    rw [heldHealth, get_object]
    rfl
  have hwho : (heldHealth checkedAt).get (js "generation") = .str (js "g1") := rfl
  have hwhat : (heldHealth checkedAt).get (js "capabilityDigest")
      = .str heldBinding.capabilityDigest := rfl
  have hset : (heldHealth checkedAt).get (js "capabilities")
      = .object (Cloud.CAPABILITY_KEYS.map fun key => (key, .bool true)) := rfl
  rw [Cloud.healthCapabilities, hprofile, hgeneration, hdigest]
  rw [hwhen, hwho, hwhat, hset, lit]
  dsimp only
  rw [if_pos]
  · rfl
  simp only [Bool.and_eq_true]
  refine ⟨⟨⟨⟨⟨⟨⟨⟨⟨⟨⟨isText_iff.mpr rfl, isText_iff.mpr rfl⟩, isText_iff.mpr rfl⟩, by simp⟩,
    Bool.or_eq_true_iff.mpr (.inr hown)⟩, by simp⟩, hsame⟩, hchecked⟩, hfresh⟩, by decide⟩, by decide⟩, ?_⟩
  rw [heldBinding_digest]
  exact hsame

theorem early_taken : Taken "2026-07-14T09:57:50.000Z" earlyTime where
  active := by decide
  health := heldHealth_ready _ _ (by decide) (by decide)

theorem prompt_taken : Taken "2026-07-14T10:20:50.000Z" promptTime where
  active := by decide
  health := heldHealth_ready _ _ (by decide) (by decide)

theorem prompt_inEra : InEra Platform.node promptTime where
  reading := by decide
  idle := by decide
  idle_exact := by decide
  hard := by decide

theorem prompt_late : memberTime Platform.node "updatedAt" (itemOf held heldOwner) ≤ promptTime.ms := by
  rw [memberTime, valueOf_itemOf (by decide), RuntimeSession.get_updatedAt]
  decide

/-- Up to the write nothing changes. -/
theorem held_unchanged {h₁ h₂ : List (SessionEvent Platform.node)} {id payload : Text}
    {expected next : Nat} {r : Bool} {σ : Store}
    (hsplit : heldEvents checkedAt x = h₁ ++ ⟨.updateSession id expected payload next, r⟩ :: h₂)
    (hmoves : Pool.Moves Store.Env (storeOf held) h₁ σ) : σ = storeOf held := by
  match h₁, hsplit, hmoves with
  | [], hsplit, _ => cases (List.cons.inj hsplit).1
  | [_], hsplit, _ => cases (List.cons.inj (List.cons.inj hsplit).2).1
  | [_, _], hsplit, _ => cases (List.cons.inj (List.cons.inj (List.cons.inj hsplit).2).2).1
  | [e₁, e₂, e₃], hsplit, hmoves =>
    obtain ⟨h₁, hsplit⟩ := List.cons.inj hsplit
    obtain ⟨h₂, hsplit⟩ := List.cons.inj hsplit
    obtain ⟨h₃, -⟩ := List.cons.inj hsplit
    subst h₁ h₂ h₃
    obtain _ | ⟨hnow, hmoves⟩ := hmoves
    obtain rfl := hnow
    obtain _ | ⟨⟨hread, -⟩, hmoves⟩ := hmoves
    obtain rfl := hread
    obtain _ | ⟨hhealth, hmoves⟩ := hmoves
    obtain rfl := hhealth
    cases hmoves
    rfl
  | _ :: _ :: _ :: _ :: rest, hsplit, _ =>
    have hlength := congrArg List.length hsplit
    simp only [heldEvents, List.length_cons, List.length_nil, List.cons_append, List.length_append]
      at hlength
    omega

/-- Every call of the invocation is in time. -/
theorem prompt_timely {Q : SessionPool Unit Platform.node} {h₁ h₂ : List (SessionEvent Platform.node)}
    {e : Call} {r : Answer Platform.node e} {s' : Store} {q : Part Platform.node Value}
    (hsplit : heldEvents "2026-07-14T10:20:50.000Z" promptTime = h₁ ++ ⟨e, r⟩ :: h₂)
    (hmoves : Pool.Moves Store.Env (storeOf held) h₁ Q.shared) (hhistory : Q.history () = [] ++ h₁) :
    Timely Q (Q.after () e r s' q) := by
  have hself : (Q.after () e r s' q).history () = Q.history () ++ [⟨e, r⟩] := by
    simp [Pool.after]
  have hread : ∀ y, Read Platform.node (Q.history ()) y → y = promptTime := by
    intro y hy
    have hmem : (⟨.now, y⟩ : SessionEvent Platform.node)
        ∈ heldEvents "2026-07-14T10:20:50.000Z" promptTime := by
      rw [hsplit]
      rw [Read, hhistory] at hy
      exact List.mem_append_left _ hy
    exact heldEvents_now hmem
  constructor
  · intro i id expected payload next r' hafter y hy
    obtain rfl := hread y hy
    refine ⟨prompt_inEra, fun item hitem _ => ?_⟩
    have hevent : (⟨e, r⟩ : SessionEvent Platform.node) = ⟨.updateSession id expected payload next, r'⟩ :=
      List.singleton_inj.mp (List.append_cancel_left (hself.symm.trans hafter))
    rw [hevent] at hsplit
    have hshared := held_unchanged hsplit hmoves
    rw [hshared] at hitem
    by_cases hid : id = sampleId
    · subst hid
      rw [storeOf_contents] at hitem
      obtain rfl := Option.some.inj hitem
      exact ⟨prompt_late, (by decide : 2 < maxSafeInteger)⟩
    · rw [storeOf_other held hid] at hitem
      cases hitem
  · intro i id item r' _ y hy
    obtain rfl := hread y hy
    exact prompt_inEra

/-- A run whose clock is right leaves the session in order. -/
theorem stored_orderly_extended : ∃ Q : SessionPool Unit Platform.node,
    Q.shared.contents sampleId
        = [itemOf (renewed Platform.node held promptTime) heldOwner, itemOf held heldOwner]
      ∧ Orderly Platform.node (Q.shared.contents sampleId) := by
  obtain ⟨r, hreaches⟩ := held_reaches prompt_taken
  have hstart : Pool.Run Store.Env Timely heldPool heldPool := .refl
  obtain ⟨Q, hrun, hshared⟩ := hstart.alone_after (i := ()) hreaches (held_moves _ promptTime) (by
    intro Q h₁ e r h₂ s' q hsplit hmoves hhistory
    exact prompt_timely hsplit hmoves hhistory)
  refine ⟨Q, ?_, stored_orderly (fun _ => heldTask) (storeOf_initial rfl held_kept) hrun sampleId⟩
  rw [hshared]
  exact extendedStore_contents promptTime

/-- **An activity whose clock is behind**: the last update of the session goes back. -/
theorem stored_backwards : ∃ Q : SessionPool Unit Platform.node,
    Pool.Run Store.Env (fun _ _ => True) heldPool Q
      ∧ Q.shared.contents sampleId
        = [itemOf (renewed Platform.node held earlyTime) heldOwner, itemOf held heldOwner]
      ∧ ¬ Orderly Platform.node (Q.shared.contents sampleId) := by
  obtain ⟨r, hreaches⟩ := held_reaches early_taken
  have hstart : Pool.Run Store.Env (fun _ _ => True) heldPool heldPool := .refl
  obtain ⟨Q, hrun, hshared, -, -⟩ := hstart.alone (i := ()) hreaches (held_moves _ earlyTime)
    fun _ _ _ _ _ _ => trivial
  have hcontents : Q.shared.contents sampleId
      = [itemOf (renewed Platform.node held earlyTime) heldOwner, itemOf held heldOwner] := by
    rw [hshared]
    exact extendedStore_contents earlyTime
  refine ⟨Q, hrun, hcontents, fun horderly => ?_⟩
  have hclock := horderly.clock
  rw [hcontents] at hclock
  have hle := (List.pairwise_cons.mp hclock).1 _ (List.mem_singleton.mpr rfl)
  rw [memberTime, memberTime, valueOf_itemOf (by decide), valueOf_itemOf (by decide),
    RuntimeSession.get_updatedAt, RuntimeSession.get_updatedAt] at hle
  exact absurd hle (by decide)

end Behind

end Sessions
