/-
# A turn of the Analytics Agent

The Analytics Agent answers with a stream of events, which the companion reads chunk by chunk
(`analytics_turn`): it splits what has arrived into lines, checks every event as soon as its line is
complete (`project_event`), and keeps a projection of it.

A turn does not depend on how the stream was cut, and it succeeds only where the stream is a turn
(`IsTurn`): one event completes it and only keepalives follow, every other event belongs to the
conversation, and only tools that read were called.
-/
import Archon.Companion.Connections
import Archon.Streams.Lines

namespace Companion

open Ecma Jobs Streams

/-! ## 1. Events -/

/-- `READ_ONLY_TOOLS`. -/
def READ_ONLY_TOOLS : List Text :=
  ["execute_sql", "list_tables", "get_schema", "preview_table", "create_chart", "search_documents",
    "grep_documents", "search", "get_entities", "list_schema_fields", "get_lineage",
    "get_lineage_paths_between", "get_dataset_queries", "search_business_context"].map js

/-- `EVENT_TYPES`. -/
def EVENT_TYPES : List Text :=
  ["TEXT", "TOOL_CALL", "TOOL_RESULT", "SQL", "CHART", "USAGE", "COMPLETE"].map js

/-- The keys of a dict are among the names. -/
def keysWithin (v : Py) (names : List String) : Bool :=
  match v with
  | .dict fields => fields.all fun f => names.any fun name => f.1 = js name
  | _ => false

/-- The type of an event is the given one. -/
def isEvent (event : Py) (type : String) : Bool := (event.get "event").isText (js type)

section Projection

variable (P : Remediation.Platform)

/-- `digest`, where it may raise. -/
def digestOf (v : Py) : Except String Text :=
  match digest P v with
  | some d => .ok d
  | none => raise "surrogates not allowed"

/-- What is kept of a call of a tool. -/
def projectCall (payload : Py) : Except String Py := do
  if !payload.exact ["tool_name", "tool_input"] || !(payload.get "tool_input").isDict then
    raise "Analytics Agent tool-call schema drift"
  else
    let inputDigest ← digestOf P (sanitized (payload.get "tool_input"))
    return .object [("tool_name", payload.get "tool_name"), ("toolInputDigest", .str inputDigest),
      ("tracePayloadStored", .bool false)]

/-- What is kept of the result of a tool. -/
def projectResult (payload : Py) : Except String Py :=
  if !payload.exact ["tool_name", "result", "is_error"] then
    raise "Analytics Agent tool-result schema drift"
  else
    match payload.get "result", payload.get "is_error" with
    | .str result, .bool isError =>
      if isError then raise "Analytics Agent read tool reported an error"
      else do
        let resultDigest ← digestOf P (.str result)
        return .object [("tool_name", payload.get "tool_name"), ("isError", .bool false),
          ("resultDigest", .str resultDigest), ("resultBytes", .int (utf8Length result)),
          ("tracePayloadStored", .bool false)]
    | _, _ => raise "Analytics Agent tool-result schema drift"

/-- What is kept of the payload of an event. -/
def projectPayload (event payload : Py) : Except String Py :=
  if isEvent event "TOOL_CALL" || isEvent event "TOOL_RESULT" then do
    if ← inTexts (payload.get "tool_name") MUTATION_TOOLS then
      raise "Analytics Agent attempted a mutation"
    else if !(← inTexts (payload.get "tool_name") READ_ONLY_TOOLS) then
      raise "Analytics Agent invoked an unreviewed tool"
    else if isEvent event "TOOL_CALL" then projectCall P payload
    else projectResult P payload
  else return sanitized payload

/-- `project_event`. -/
def projectEvent (event : Py) (conversationId : Text) (completeSeen : Bool) :
    Except String (Option Py × Bool) :=
  if !keysWithin event ["event", "conversation_id", "message_id", "payload"] then
    raise "Analytics Agent event schema drift"
  else if isEvent event "KEEPALIVE" then
    if !event.exact ["event"] then raise "Analytics Agent keepalive schema drift"
    else return (none, completeSeen)
  else if isEvent event "ERROR" then raise "Analytics Agent reported an error"
  else do
    if !(← inTexts (event.get "event") EVENT_TYPES) || completeSeen then
      raise "Analytics Agent emitted an unexpected event"
    else if !(event.get "conversation_id").isText conversationId then
      raise "Analytics Agent conversation binding drift"
    else if !(event.get "payload").isDict then raise "Analytics Agent event payload drift"
    else
      let projected ← projectPayload P event (event.get "payload")
      return (some (.object [("event", event.get "event"), ("payload", projected)]),
        isEvent event "COMPLETE")

end Projection

/-! ## 2. `analytics_turn` -/

def MAX_RESPONSE_BYTES : Nat := 1000000

def MAX_EVENTS : Nat := 200

def MAX_LINES : Nat := 1000

def MAX_LINE_BYTES : Nat := 65536

/-- `b" \t\n\r\x0b\x0c"`, what `strip` removes. -/
def isBlank (b : UInt8) : Bool := b == 0x20 || (0x09 ≤ b && b ≤ 0x0D)

/-- `bytes.rstrip`, of the bytes of a kind. -/
def stripEnd (p : UInt8 → Bool) (bytes : List UInt8) : List UInt8 :=
  (bytes.reverse.dropWhile p).reverse

/-- `bytes.strip()`. -/
def strip (bytes : List UInt8) : List UInt8 := stripEnd isBlank (bytes.dropWhile isBlank)

/-- `b"data:"`. -/
def dataPrefix : List UInt8 := [0x64, 0x61, 0x74, 0x61, 0x3A]

/-- What is collected of the lines. -/
structure Turn where
  projected : List Py
  lineCount : Nat
  eventCount : Nat
  completeSeen : Bool

/-- What has been received. -/
structure Receiving where
  total : Nat
  reading : Reading Turn UInt8

section Turns

variable (P : Remediation.Platform) (loads : List UInt8 → Except String Py) (conversationId : Text)

/-- One event, of the bytes after `data:`; `loads` decodes them and calls `json.loads`. -/
def takeEvent (turn : Turn) (rawEvent : List UInt8) : Except String Turn := do
  if rawEvent.isEmpty then raise "Analytics Agent emitted an empty event"
  else if MAX_EVENTS < turn.eventCount + 1 then raise "Analytics Agent emitted too many events"
  else
    let event ← loads rawEvent
    let (safeEvent, completeSeen) ← projectEvent P event conversationId turn.completeSeen
    return { turn with
      projected := turn.projected ++ safeEvent.toList
      eventCount := turn.eventCount + 1
      completeSeen }

/-- One line. -/
def takeLine (turn : Turn) (rawLine : List UInt8) : Except String Turn :=
  let counted := { turn with lineCount := turn.lineCount + 1 }
  if MAX_LINES < turn.lineCount + 1 || MAX_LINE_BYTES < rawLine.length then
    raise "Analytics Agent stream framing exceeded policy"
  else
    let line := stripEnd (· == 0x0D) rawLine
    if line.isEmpty || line.head? == some 0x3A then .ok counted
    else if !dataPrefix.isPrefixOf line then raise "Analytics Agent stream framing drift"
    else takeEvent P loads conversationId counted (strip (line.drop 5))

/-- One chunk. -/
def receive (s : Receiving) (chunk : List UInt8) : Except String Receiving :=
  if MAX_RESPONSE_BYTES < s.total + chunk.length then raise "Analytics Agent stream exceeded policy"
  else do
    let reading ← feed 0x0A MAX_LINE_BYTES (takeLine P loads conversationId)
      "Analytics Agent stream line exceeded policy" s.reading chunk
    return ⟨s.total + chunk.length, reading⟩

/-- Nothing has been received. -/
def Receiving.start : Receiving := ⟨0, ⟨[], 0, 0, false⟩, []⟩

/-- `analytics_turn`, once the response has begun. -/
def analyticsTurn (status : Nat) (contentType : Text) (chunks : List (List UInt8)) :
    Except String (List Py) :=
  if status ≠ 200 then raise "Analytics Agent turn failed"
  else if contentType.takeWhile (· ≠ 0x3B) ≠ js "text/event-stream" then
    raise "Analytics Agent stream media type drift"
  else do
    let received ← chunks.foldlM (receive P loads conversationId) .start
    let turn := received.reading.state
    if !(strip received.reading.pending).isEmpty then
      raise "Analytics Agent stream ended with an incomplete frame"
    else if !turn.completeSeen
        || (turn.projected.filter fun event => isEvent event "COMPLETE").length ≠ 1 then
      raise "Analytics Agent did not complete exactly once"
    else return turn.projected

end Turns

/-! ## 3. How the stream was cut -/

section Cut

variable {P : Remediation.Platform} {loads : List UInt8 → Except String Py} {conversationId : Text}

theorem length_of_takeLine {turn turn' : Turn} {rawLine : List UInt8}
    (h : takeLine P loads conversationId turn rawLine = .ok turn') : rawLine.length ≤ MAX_LINE_BYTES := by
  rw [takeLine] at h
  split at h
  · cases h
  case isFalse hbounds =>
    rw [Bool.or_eq_true, not_or, decide_eq_true_eq, decide_eq_true_eq] at hbounds
    exact not_lt.mp hbounds.2

/-- The reading of a chunk. -/
abbrev readChunk (P : Remediation.Platform) (loads : List UInt8 → Except String Py)
    (conversationId : Text) :=
  feed (0x0A : UInt8) MAX_LINE_BYTES (takeLine P loads conversationId)
    "Analytics Agent stream line exceeded policy"

theorem receive_eq_ok {s s' : Receiving} {chunk : List UInt8} :
    receive P loads conversationId s chunk = .ok s' ↔ s.total + chunk.length ≤ MAX_RESPONSE_BYTES
      ∧ readChunk P loads conversationId s.reading chunk = .ok s'.reading
      ∧ s'.total = s.total + chunk.length := by
  rw [receive]
  by_cases hbound : MAX_RESPONSE_BYTES < s.total + chunk.length
  · rw [if_pos hbound]
    exact ⟨(fun h => nomatch h), fun h => absurd h.1 (not_le.mpr hbound)⟩
  · rw [if_neg hbound, bind_eq_ok]
    constructor
    · rintro ⟨reading, hreading, heq⟩
      cases heq
      exact ⟨not_lt.mp hbound, hreading, rfl⟩
    · rintro ⟨-, hreading, htotal⟩
      exact ⟨s'.reading, hreading, by rw [← htotal]; rfl⟩

theorem foldlM_receive {s s' : Receiving} (hs : s.total ≤ MAX_RESPONSE_BYTES)
    (chunks : List (List UInt8)) : chunks.foldlM (receive P loads conversationId) s = .ok s' ↔
      s.total + chunks.flatten.length ≤ MAX_RESPONSE_BYTES
        ∧ chunks.foldlM (readChunk P loads conversationId) s.reading = .ok s'.reading
        ∧ s'.total = s.total + chunks.flatten.length := by
  induction chunks generalizing s with
  | nil =>
    constructor
    · intro h
      cases h
      exact ⟨hs, rfl, rfl⟩
    · rintro ⟨-, hreading, htotal⟩
      obtain ⟨total, reading⟩ := s
      obtain ⟨total', reading'⟩ := s'
      cases hreading
      cases htotal
      rfl
  | cons chunk chunks ih =>
    rw [List.foldlM_cons, bind_eq_ok, List.foldlM_cons, bind_eq_ok, List.flatten_cons, List.length_append,
      ← Nat.add_assoc]
    constructor
    · rintro ⟨m, hm, hrest⟩
      obtain ⟨hbound, hreading, htotal⟩ := receive_eq_ok.mp hm
      obtain ⟨hall, hreadings, htotal'⟩ := (ih (htotal ▸ hbound)).mp hrest
      rw [htotal] at hall htotal'
      exact ⟨hall, ⟨m.reading, hreading, hreadings⟩, htotal'⟩
    · rintro ⟨hall, ⟨reading, hreading, hreadings⟩, htotal⟩
      have hbound : s.total + chunk.length ≤ MAX_RESPONSE_BYTES := (Nat.le_add_right _ _).trans hall
      refine ⟨⟨s.total + chunk.length, reading⟩, receive_eq_ok.mpr ⟨hbound, hreading, rfl⟩, ?_⟩
      exact (ih hbound).mpr ⟨hall, hreadings, htotal⟩

/-- What is received is a matter of the whole stream. -/
theorem received_iff {s : Receiving} (chunks : List (List UInt8)) :
    chunks.foldlM (receive P loads conversationId) .start = .ok s ↔
      chunks.flatten.length ≤ MAX_RESPONSE_BYTES
        ∧ readChunk P loads conversationId Receiving.start.reading chunks.flatten = .ok s.reading
        ∧ s.total = chunks.flatten.length := by
  have hchunks : chunks.foldlM (readChunk P loads conversationId) Receiving.start.reading = .ok s.reading
      ↔ readChunk P loads conversationId Receiving.start.reading chunks.flatten = .ok s.reading :=
    feed_chunks (fun _ _ _ h => length_of_takeLine h) List.not_mem_nil (Nat.zero_le _) chunks
  rw [foldlM_receive (Nat.zero_le _), Receiving.start, Nat.zero_add]
  exact and_congr_right fun _ => and_congr_left fun _ => hchunks

/-- What a turn that succeeds has received. -/
theorem analyticsTurn_eq_ok {status : Nat} {contentType : Text} {chunks : List (List UInt8)}
    {events : List Py} : analyticsTurn P loads conversationId status contentType chunks = .ok events ↔
      status = 200 ∧ contentType.takeWhile (· ≠ 0x3B) = js "text/event-stream"
        ∧ ∃ s, chunks.foldlM (receive P loads conversationId) .start = .ok s
          ∧ (strip s.reading.pending).isEmpty = true ∧ s.reading.state.completeSeen = true
          ∧ (s.reading.state.projected.filter fun event => isEvent event "COMPLETE").length = 1
          ∧ events = s.reading.state.projected := by
  rw [analyticsTurn]
  by_cases hstatus : status = 200
  · by_cases htype : contentType.takeWhile (· ≠ 0x3B) = js "text/event-stream"
    · rw [if_neg (not_not.mpr hstatus), if_neg (not_not.mpr htype), bind_eq_ok]
      simp only [hstatus, htype, true_and]
      refine exists_congr fun s => and_congr_right fun _ => ?_
      by_cases hpending : (strip s.reading.pending).isEmpty = true
      · rw [hpending, Bool.not_true, if_neg Bool.false_ne_true]
        by_cases hdone : s.reading.state.completeSeen = true
            ∧ (s.reading.state.projected.filter fun event => isEvent event "COMPLETE").length = 1
        · rw [hdone.1, hdone.2]
          simp [eq_comm, pure, Except.pure]
        · rw [if_pos (by simpa [or_iff_not_imp_left] using hdone)]
          constructor
          · intro h
            cases h
          · rintro ⟨-, hseen, hone, -⟩
            exact absurd ⟨hseen, hone⟩ hdone
      · rw [if_pos (by simpa using hpending)]
        exact ⟨(fun h => nomatch h), fun h => absurd h.1 hpending⟩
    · rw [if_neg (not_not.mpr hstatus), if_pos htype]
      exact ⟨(fun h => nomatch h), fun h => absurd h.2.1 htype⟩
  · rw [if_pos hstatus]
    exact ⟨(fun h => nomatch h), fun h => absurd h.1 hstatus⟩

end Cut

/-! ## 4. The events of the stream -/

/-- What stands after `data:` in a line that is not blank and no comment. -/
def rawEventOf (rawLine : List UInt8) : Option (List UInt8) :=
  let line := stripEnd (· == 0x0D) rawLine
  if line.isEmpty || line.head? == some 0x3A then none else some (strip (line.drop 5))

/-- The event of a line. -/
def eventOf (loads : List UInt8 → Except String Py) (rawLine : List UInt8) : Option Py :=
  (rawEventOf rawLine).bind fun rawEvent => (loads rawEvent).toOption

/-- The events of a stream. -/
def eventsOf (loads : List UInt8 → Except String Py) (stream : List UInt8) : List Py :=
  (splitLines 0x0A stream).1.filterMap (eventOf loads)

/-- The event belongs to the conversation and is of no tool but one that reads. -/
structure Belongs (conversationId : Text) (event : Py) : Prop where
  conversation : isEvent event "KEEPALIVE" = true ∨ event.get "conversation_id" = .str conversationId
  tool : isEvent event "TOOL_CALL" = true ∨ isEvent event "TOOL_RESULT" = true →
    ∃ tool ∈ READ_ONLY_TOOLS, (event.get "payload").get "tool_name" = .str tool

/-- One of the events completes the turn, and only keepalives follow. -/
def Completed (events : List Py) : Prop :=
  ∃ before last after, events = before ++ last :: after ∧ isEvent last "COMPLETE" = true
    ∧ (∀ event ∈ before, isEvent event "COMPLETE" = false)
    ∧ ∀ event ∈ after, isEvent event "KEEPALIVE" = true

/-- The events are a turn of the conversation. -/
structure IsTurn (conversationId : Text) (events : List Py) : Prop where
  belongs : ∀ event ∈ events, Belongs conversationId event
  completed : Completed events

section Events

variable {P : Remediation.Platform} {loads : List UInt8 → Except String Py} {conversationId : Text}
  {event : Py}

theorem isEvent_other {s t : String} (hne : js s ≠ js t) (h : isEvent event s = true) :
    isEvent event t = false := isText_other hne h

theorem tool_of_projectPayload {payload projected : Py}
    (h : projectPayload P event payload = .ok projected)
    (htool : isEvent event "TOOL_CALL" = true ∨ isEvent event "TOOL_RESULT" = true) :
    ∃ tool ∈ READ_ONLY_TOOLS, payload.get "tool_name" = .str tool := by
  rw [projectPayload, if_pos (by simpa using htool)] at h
  obtain ⟨mutation, -, h⟩ := bind_eq_ok.mp h
  split at h
  · cases h
  · obtain ⟨reviewed, hreviewed, h⟩ := bind_eq_ok.mp h
    split at h
    · cases h
    case isFalse hread =>
      have hany := any_of_inTexts hreviewed
      rw [show reviewed = true by simpa using hread, List.any_eq_true] at hany
      obtain ⟨tool, hmem, htext⟩ := hany
      exact ⟨tool, hmem, Py.isText_iff.mp htext⟩

/-- What an event that is accepted is. -/
theorem belongs_of_projectEvent {seen seen' : Bool} {safe : Option Py}
    (h : projectEvent P event conversationId seen = .ok (safe, seen')) :
    Belongs conversationId event ∧ (isEvent event "KEEPALIVE" = true ∧ seen' = seen
      ∨ seen = false ∧ seen' = isEvent event "COMPLETE") := by
  rw [projectEvent] at h
  split at h
  · cases h
  · split at h
    case isTrue hkeepalive =>
      split at h
      · cases h
      · cases h
        refine ⟨⟨Or.inl hkeepalive, fun htool => ?_⟩, Or.inl ⟨hkeepalive, rfl⟩⟩
        rcases htool with htool | htool
        · rw [isEvent_other (by decide) hkeepalive] at htool
          cases htool
        · rw [isEvent_other (by decide) hkeepalive] at htool
          cases htool
    case isFalse hother =>
      split at h
      · cases h
      · obtain ⟨known, -, h⟩ := bind_eq_ok.mp h
        split at h
        · cases h
        case isFalse hexpected =>
          split at h
          · cases h
          case isFalse hconversation =>
            split at h
            · cases h
            · obtain ⟨projected, hprojected, h⟩ := bind_eq_ok.mp h
              cases h
              have hseen : seen = false := by
                rw [Bool.or_eq_true, not_or] at hexpected
                simpa using hexpected.2
              refine ⟨⟨Or.inr (Py.isText_iff.mp (by simpa using hconversation)),
                tool_of_projectPayload hprojected⟩, Or.inr ⟨hseen, rfl⟩⟩

/-- What a line that is accepted adds. -/
theorem takeLine_event {turn turn' : Turn} {rawLine : List UInt8}
    (h : takeLine P loads conversationId turn rawLine = .ok turn') :
    eventOf loads rawLine = none ∧ turn'.completeSeen = turn.completeSeen
      ∨ ∃ event safe, eventOf loads rawLine = some event
        ∧ projectEvent P event conversationId turn.completeSeen = .ok (safe, turn'.completeSeen) := by
  rw [takeLine] at h
  split at h
  · cases h
  · dsimp only at h
    split at h
    case isTrue hblank =>
      cases h
      refine Or.inl ⟨?_, rfl⟩
      rw [eventOf, rawEventOf, if_pos hblank]
      rfl
    case isFalse hline =>
      split at h
      · cases h
      · rw [takeEvent] at h
        split at h
        · cases h
        · split at h
          · cases h
          · obtain ⟨event, hevent, h⟩ := bind_eq_ok.mp h
            obtain ⟨⟨safe, seen⟩, hproject, h⟩ := bind_eq_ok.mp h
            cases h
            refine Or.inr ⟨event, safe, ?_, hproject⟩
            rw [eventOf, rawEventOf, if_neg hline, Option.bind_some, hevent]
            rfl

/-- The events so far, with the note whether one of them completed the turn. -/
structure SoFar (conversationId : Text) (events : List Py) (seen : Bool) : Prop where
  belongs : ∀ event ∈ events, Belongs conversationId event
  completed : seen = true → Completed events
  pending : seen = false → ∀ event ∈ events, isEvent event "COMPLETE" = false

/-- One more event. -/
theorem SoFar.step {events : List Py} {seen seen' : Bool} {safe : Option Py}
    (k : SoFar conversationId events seen)
    (h : projectEvent P event conversationId seen = .ok (safe, seen')) :
    SoFar conversationId (events ++ [event]) seen' := by
  obtain ⟨hbelongs, hseen⟩ := belongs_of_projectEvent h
  have hall : ∀ e ∈ events ++ [event], Belongs conversationId e := by
    intro e he
    rcases List.mem_append.mp he with he | he
    · exact k.belongs e he
    · exact List.mem_singleton.mp he ▸ hbelongs
  have hlast : ∀ e ∈ events ++ [event], e ∈ events ∨ e = event := fun e he =>
    (List.mem_append.mp he).imp id List.mem_singleton.mp
  rcases hseen with ⟨hkeepalive, rfl⟩ | ⟨rfl, rfl⟩
  · refine ⟨hall, fun htrue => ?_, fun hfalse e he => ?_⟩
    · obtain ⟨before, last, after, rfl, hcomplete, hbefore, hafter⟩ := k.completed htrue
      refine ⟨before, last, after ++ [event], by simp, hcomplete, hbefore, fun e he => ?_⟩
      rcases List.mem_append.mp he with he | he
      · exact hafter e he
      · exact List.mem_singleton.mp he ▸ hkeepalive
    · rcases hlast e he with he | rfl
      · exact k.pending hfalse e he
      · exact isEvent_other (by decide) hkeepalive
  · refine ⟨hall, fun htrue => ?_, fun hfalse e he => ?_⟩
    · exact ⟨events, event, [], rfl, htrue, k.pending rfl, fun e he => absurd he List.not_mem_nil⟩
    · rcases hlast e he with he | rfl
      · exact k.pending rfl e he
      · exact hfalse

/-- All lines. -/
theorem SoFar.run {events : List Py} {turn turn' : Turn} {lines : List (List UInt8)}
    (k : SoFar conversationId events turn.completeSeen)
    (h : lines.foldlM (takeLine P loads conversationId) turn = .ok turn') :
    SoFar conversationId (events ++ lines.filterMap (eventOf loads)) turn'.completeSeen := by
  induction lines generalizing events turn with
  | nil =>
    cases h
    rw [List.filterMap_nil, List.append_nil]
    exact k
  | cons line lines ih =>
    rw [List.foldlM_cons] at h
    obtain ⟨next, hnext, h⟩ := bind_eq_ok.mp h
    rcases takeLine_event hnext with ⟨hnone, hseen⟩ | ⟨event, safe, hsome, hproject⟩
    · rw [List.filterMap_cons_none hnone]
      exact ih (hseen ▸ k) h
    · rw [List.filterMap_cons_some hsome, List.append_cons]
      exact ih (k.step hproject) h

/-- **A turn does not depend on how the stream was cut**, and it succeeds only if the events of the
stream are a turn of the conversation. -/
theorem turn_of_stream (P : Remediation.Platform) (loads : List UInt8 → Except String Py)
    (conversationId : Text) (status : Nat) (contentType : Text) :
    (∀ (chunks chunks' : List (List UInt8)) (events : List Py), chunks.flatten = chunks'.flatten →
      (analyticsTurn P loads conversationId status contentType chunks = .ok events
        ↔ analyticsTurn P loads conversationId status contentType chunks' = .ok events))
      ∧ ∀ (chunks : List (List UInt8)) (events : List Py),
        analyticsTurn P loads conversationId status contentType chunks = .ok events →
          IsTurn conversationId (eventsOf loads chunks.flatten) := by
  constructor
  · intro chunks chunks' events heq
    rw [analyticsTurn_eq_ok, analyticsTurn_eq_ok]
    simp only [received_iff, heq]
  · intro chunks events h
    obtain ⟨-, -, s, hreceived, -, hseen, -⟩ := analyticsTurn_eq_ok.mp h
    obtain ⟨-, hreading, -⟩ := (received_iff chunks).mp hreceived
    obtain ⟨hlines, -⟩ := feed_eq_ok.mp hreading
    have hstart : SoFar conversationId [] Receiving.start.reading.state.completeSeen :=
      ⟨fun _ he => absurd he List.not_mem_nil, (fun h => nomatch h),
        fun _ _ he => absurd he List.not_mem_nil⟩
    have hrun := hstart.run hlines
    exact ⟨hrun.belongs, hrun.completed hseen⟩

end Events

end Companion
