/-
# The connections of the Analytics Agent

Before a turn the companion reads which connections the Analytics Agent has and which of their tools are
switched on, and goes on only if this inventory is one that it accepts (`validate_connections`).  The one
connection to the MCP server must be the configured one and have exactly the six reviewed tools.  Of a
native connection to DataHub only two of the tools that write are looked at, so that the inventory lets
no tool write exactly where such a connection has none of the other four (`accepted_readOnly_iff`).
-/
import Archon.Companion.Sanitized

namespace Companion

open Ecma Jobs
open Cloud (codePointLe)

/-! ## 1. The configuration -/

/-- What the environment says. -/
structure Environ where
  profileId : Text
  generation : Text
  capabilityDigest : Text
  /-- `ARCHON_DATAHUB_MCP_CONNECTION`. -/
  mcpConnection : Text
  /-- `ARCHON_DATAHUB_MCP_URL`, if it is set. -/
  mcpUrl : Option Text
  /-- What `cloud_mcp_endpoint` makes of the other settings, where it returns. -/
  cloudEndpoint : Option Text

/-- `RuntimeError`. -/
def raise {α : Type} (message : String) : Except String α := .error message

theorem bind_eq_ok {α β : Type} {x : Except String α} {f : α → Except String β} {b : β} :
    (x >>= f) = .ok b ↔ ∃ a, x = .ok a ∧ f a = .ok b := by
  rcases x with e | a <;> simp [bind, Except.bind]

/-- `MCP_TOOLS`. -/
def MCP_TOOLS : List Text :=
  ["get_dataset_queries", "get_entities", "get_lineage", "get_lineage_paths_between",
    "list_schema_fields", "search"].map js

/-- `MUTATION_TOOLS`. -/
def MUTATION_TOOLS : List Text :=
  ["publish_analysis", "save_correction", "add_tags", "add_owners", "set_domains",
    "update_description"].map js

/-- The identity that `configured_runtime_identity` returns. -/
structure Identity where
  profileId : Text
  generation : Text
  capabilityDigest : Text

/-- `configured_runtime_identity`. -/
def configuredRuntimeIdentity (env : Environ) : Except String Identity := do
  if env.profileId ≠ js "cloud" ∧ env.profileId ≠ js "core" then raise "runtime profile is not configured"
  if !Runtime.isGeneration env.generation then raise "runtime generation is not configured"
  if !isDigest env.capabilityDigest then raise "runtime capability digest is not configured"
  return ⟨env.profileId, env.generation, env.capabilityDigest⟩

/-- `mcp_endpoint`. -/
def mcpEndpoint (env : Environ) : Except String Text := do
  let identity ← configuredRuntimeIdentity env
  if identity.profileId = js "cloud" then
    if env.mcpUrl.any fun url => !url.isEmpty then raise "Cloud DataHub MCP endpoint must be derived"
    match env.cloudEndpoint with
    | some endpoint => return endpoint
    | none => raise "Cloud DataHub MCP endpoint policy drift"
  else
    let configured := env.mcpUrl.getD (js "http://archon-read-mcp:8000/mcp")
    if configured ≠ js "http://archon-read-mcp:8000/mcp" then
      raise "DataHub MCP URL is outside the private allowlist"
    return configured

/-! ## 2. `validate_connections` -/

/-- `value in {..}`, of a set of texts; a list and a dict cannot be looked up. -/
def inTexts (value : Py) (texts : List Text) : Except String Bool :=
  match value with
  | .list _ | .dict _ => raise "unhashable type"
  | v => .ok (texts.any v.isText)

/-- `item.get("status") == "connected" and item.get("disabled") is False`. -/
def isActive (item : Py) : Bool :=
  (item.get "status").isText (js "connected") &&
    match item.get "disabled" with
    | .bool b => !b
    | _ => false

/-- One round over the tools of a connection. -/
def toggle (toggles : List (Text × Bool)) (tool : Py) : Except String (List (Text × Bool)) :=
  if !tool.isDict then raise "DataHub tool policy schema drift"
  else
    match tool.get "name", tool.get "enabled" with
    | .str name, .bool enabled =>
      if (toggles.lookup name).isSome then raise "DataHub tool policy schema drift"
      else .ok (toggles ++ [(name, enabled)])
    | _, _ => raise "DataHub tool policy schema drift"

/-- The values of the fields of a connection that are its address. -/
def endpoints (fields : List Py) : List Py :=
  (fields.filter fun field => field.isDict && (field.get "key").isText (js "url")).map (·.get "value")

/-- `endpoints != [mcp_endpoint()]`. -/
def boundElsewhere (endpoints : List Py) (endpoint : Text) : Bool :=
  !(Py.list endpoints).isTexts [endpoint]

/-- The lists that the loop fills. -/
structure Inventory where
  activeDataHub : List Text
  activeMcp : List Text
  engineConnected : Bool

/-- What is asked of a connection to the MCP server. -/
def reviewMcp (env : Environ) (profile mcpName name : Text) (item : Py) (toggles : List (Text × Bool)) :
    Except String Unit := do
  if name ≠ mcpName then raise "unreviewed DataHub MCP connection is active"
  let selectedReady := MCP_TOOLS.all fun tool => toggles.lookup tool = some true
  let unselectedEnabled := toggles.any fun t => t.2 && !MCP_TOOLS.contains t.1
  let otherTools := toggles.any fun t => !MCP_TOOLS.contains t.1
  if !selectedReady || unselectedEnabled || (profile = js "core" && otherTools) then
    raise "DataHub MCP read-only tool surface drift"
  match item.get "fields" with
  | .list fields =>
    if boundElsewhere (endpoints fields) (← mcpEndpoint env) then
      raise "Analytics Agent MCP endpoint binding drift"
  | _ => raise "DataHub MCP endpoint is not observable"

/-- What is asked of a native connection. -/
def reviewNative (toggles : List (Text × Bool)) : Except String Unit :=
  if ["publish_analysis", "save_correction"].all fun tool => toggles.lookup (js tool) = some false then
    .ok ()
  else raise "Analytics Agent mutation tools are not disabled"

/-- One round over the connections. -/
def connection (env : Environ) (profile mcpName engineName : Text) (state : Inventory) (item : Py) :
    Except String Inventory := do
  if !item.isDict then raise "Analytics Agent connection schema drift"
  let active := isActive item
  let state := if (item.get "name").isText engineName && active then
    { state with engineConnected := true } else state
  if !(← inTexts (item.get "type") (["datahub", "datahub-mcp"].map js)) || !active then return state
  match item.get "name" with
  | .str name =>
    if !Runtime.isGeneration name then raise "DataHub connection identity drift"
    else
      match item.get "tools" with
      | .list tools =>
        if 100 < tools.length then raise "DataHub tool policy is not observable"
        else do
          let toggles ← tools.foldlM toggle []
          if (item.get "type").isText (js "datahub-mcp") then do
            reviewMcp env profile mcpName name item toggles
            return { state with
              activeMcp := state.activeMcp ++ [name], activeDataHub := state.activeDataHub ++ [name] }
          else do
            reviewNative toggles
            return { state with activeDataHub := state.activeDataHub ++ [name] }
      | _ => raise "DataHub tool policy is not observable"
  | _ => raise "DataHub connection identity drift"

/-- `validate_connections`; the digest is the one of the selected tools. -/
def validateConnections (env : Environ) (toolSurfaceDigest : Text) (connections : Py)
    (engineName : Text) : Except String Py := do
  match connections with
  | .list items =>
    if 100 < items.length then raise "Analytics Agent connection inventory drift"
    let identity ← configuredRuntimeIdentity env
    let mcpName := env.mcpConnection
    if !Runtime.isGeneration mcpName then raise "DataHub MCP connection is not configured"
    let found ← items.foldlM (connection env identity.profileId mcpName engineName) ⟨[], [], false⟩
    if found.activeDataHub.isEmpty then raise "no connected DataHub context platform"
    if found.activeMcp ≠ [mcpName] then raise "configured DataHub MCP connection is not active"
    if !found.engineConnected then raise "configured Analytics engine is not connected"
    return .object [("activeDataHubConnections",
        .list ((found.activeDataHub.mergeSort codePointLe).map .str)),
      ("mcpConnectionName", .str mcpName), ("mcpToolSurfaceDigest", .str toolSurfaceDigest),
      ("engineName", .str engineName),
      ("mutationTools", .object [("publish_analysis", .bool false), ("save_correction", .bool false)])]
  | _ => raise "Analytics Agent connection inventory drift"

/-! ## 3. What an inventory lets the tools do -/

/-- The type of a connection that is active. -/
def isActiveOf (type : String) (item : Py) : Bool := isActive item && (item.get "type").isText (js type)

/-- The tool is switched on. -/
def Enables (item : Py) (tool : Text) : Prop :=
  ∃ tools, item.get "tools" = .list tools
    ∧ ∃ t ∈ tools, t.get "name" = .str tool ∧ t.get "enabled" = .bool true

/-- No active connection to DataHub has a tool that writes. -/
def ReadOnly (items : List Py) : Prop :=
  ∀ item ∈ items, isActiveOf "datahub" item = true ∨ isActiveOf "datahub-mcp" item = true →
    ∀ tool ∈ MUTATION_TOOLS, ¬ Enables item tool

/-- The connection is the configured one, with exactly the selected tools. -/
structure Configured (env : Environ) (item : Py) : Prop where
  name : item.get "name" = .str env.mcpConnection
  endpoint : ∃ fields endpoint, item.get "fields" = .list fields ∧ mcpEndpoint env = .ok endpoint
    ∧ endpoints fields = [.str endpoint]
  tools : ∀ tool, Enables item tool ↔ tool ∈ MCP_TOOLS

/-- The only active connection to an MCP server is the configured one. -/
def McpBound (env : Environ) (items : List Py) : Prop :=
  ∃ item, items.filter (isActiveOf "datahub-mcp") = [item] ∧ Configured env item

/-- The tools that write and that are not looked at in a native connection. -/
def UNREVIEWED_TOOLS : List Text :=
  ["add_tags", "add_owners", "set_domains", "update_description"].map js

/-- No native connection has one of them. -/
def NativeQuiet (items : List Py) : Prop :=
  ∀ item ∈ items, isActiveOf "datahub" item = true → ∀ tool ∈ UNREVIEWED_TOOLS, ¬ Enables item tool

/-! ## 4. The tools of a connection -/

/-- What a round over the tools adds. -/
def Toggles (tool : Py) (entry : Text × Bool) : Prop :=
  tool.get "name" = .str entry.1 ∧ tool.get "enabled" = .bool entry.2

theorem toggle_eq_ok {toggles result : List (Text × Bool)} {tool : Py}
    (h : toggle toggles tool = .ok result) :
    ∃ entry, Toggles tool entry ∧ entry.1 ∉ toggles.map Prod.fst ∧ result = toggles ++ [entry] := by
  rw [toggle] at h
  split at h
  · cases h
  · split at h
    case h_1 name enabled hname henabled =>
      split at h
      · cases h
      case isFalse hnew =>
        obtain rfl := Except.ok.inj h
        refine ⟨(name, enabled), ⟨hname, henabled⟩, fun hmem => hnew ?_, rfl⟩
        rw [List.lookup_isSome_iff]
        obtain ⟨entry, hentry, rfl⟩ := List.mem_map.mp hmem
        exact ⟨entry, hentry, beq_self_eq_true _⟩
    case h_2 => cases h

theorem foldlM_toggle {tools : List Py} {toggles result : List (Text × Bool)}
    (hnodup : (toggles.map Prod.fst).Nodup) (h : tools.foldlM toggle toggles = .ok result) :
    ∃ entries, List.Forall₂ Toggles tools entries ∧ result = toggles ++ entries
      ∧ (result.map Prod.fst).Nodup := by
  induction tools generalizing toggles with
  | nil =>
    obtain rfl := Except.ok.inj h
    exact ⟨[], .nil, (List.append_nil _).symm, hnodup⟩
  | cons tool tools ih =>
    rw [List.foldlM_cons] at h
    obtain ⟨next, hnext, h⟩ := Companion.bind_eq_ok.mp h
    obtain ⟨entry, hentry, hnew, rfl⟩ := toggle_eq_ok hnext
    have hnodup' : ((toggles ++ [entry]).map Prod.fst).Nodup := by
      rw [List.map_append, List.nodup_append]
      refine ⟨hnodup, List.nodup_singleton _, fun a ha b hb hab => hnew ?_⟩
      obtain rfl := List.mem_singleton.mp hb
      exact hab ▸ ha
    obtain ⟨entries, hentries, rfl, hnodup'⟩ := ih hnodup' h
    exact ⟨entry :: entries, .cons hentry hentries, by simp, hnodup'⟩

theorem lookup_iff_mem {entries : List (Text × Bool)} (h : (entries.map Prod.fst).Nodup) (key : Text)
    (b : Bool) : entries.lookup key = some b ↔ (key, b) ∈ entries := by
  induction entries with
  | nil => simp
  | cons entry entries ih =>
    obtain ⟨k, c⟩ := entry
    obtain ⟨hfresh, hnodup⟩ := List.nodup_cons.mp h
    rw [List.lookup_cons, List.mem_cons]
    by_cases hk : key = k
    · subst hk
      have hnot : (key, b) ∉ entries := fun hmem => hfresh (List.mem_map.mpr ⟨_, hmem, rfl⟩)
      simp [hnot, eq_comm]
    · rw [beq_false_of_ne hk, ih hnodup]
      simp [hk]

/-- The toggles say which tools are switched on. -/
theorem lookup_toggles {item : Py} {tools : List Py} {toggles : List (Text × Bool)}
    (hitem : item.get "tools" = .list tools) (h : tools.foldlM toggle [] = .ok toggles) (tool : Text) :
    (toggles.lookup tool = some true ↔ Enables item tool)
      ∧ ((tool, true) ∈ toggles ↔ Enables item tool) := by
  obtain ⟨entries, hentries, heq, hnodup⟩ := foldlM_toggle (by simp) h
  rw [List.nil_append] at heq
  subst heq
  have hmem : (tool, true) ∈ toggles ↔ Enables item tool := by
    constructor
    · intro hmem
      obtain ⟨t, ht, hname, henabled⟩ : ∃ t ∈ tools, Toggles t (tool, true) := by
        obtain ⟨i, hi, hget⟩ := List.mem_iff_getElem.mp hmem
        have hlt : i < tools.length := hentries.length_eq ▸ hi
        have hentry := hentries.get hlt hi
        rw [List.get_eq_getElem, List.get_eq_getElem, hget] at hentry
        exact ⟨tools[i], List.getElem_mem hlt, hentry⟩
      exact ⟨tools, hitem, t, ht, hname, henabled⟩
    · rintro ⟨tools', htools, t, ht, hname, henabled⟩
      obtain rfl := Py.list.inj (hitem.symm.trans htools)
      obtain ⟨i, hi, rfl⟩ := List.mem_iff_getElem.mp ht
      have hlt : i < toggles.length := hentries.length_eq ▸ hi
      have hentry := hentries.get hi hlt
      have heq : toggles[i] = (tool, true) := Prod.ext
        (Py.str.inj (hentry.1.symm.trans hname)) (Py.bool.inj (hentry.2.symm.trans henabled))
      exact heq ▸ List.getElem_mem hlt
  refine ⟨?_, hmem⟩
  rw [← hmem]
  exact lookup_iff_mem hnodup tool true

/-! ## 5. One connection -/

variable {env : Environ} {profile mcpName engineName : Text} {state result : Inventory} {item : Py}

theorem isTexts_singleton {items : List Py} {t : Text} :
    boundElsewhere items t = false ↔ items = [.str t] := by
  rw [boundElsewhere, Bool.not_eq_false', Py.isTexts_iff, Py.list.injEq]
  rfl

/-- A connection to the MCP server that passes is the configured one. -/
theorem configured_of_reviewMcp {tools : List Py} {toggles : List (Text × Bool)} {name : Text}
    (hname : item.get "name" = .str name) (htools : item.get "tools" = .list tools)
    (htoggles : tools.foldlM toggle [] = .ok toggles)
    (h : reviewMcp env profile env.mcpConnection name item toggles = .ok ()) : Configured env item := by
  rw [reviewMcp] at h
  split at h
  · cases h
  case isFalse hsame =>
    have hsame : name = env.mcpConnection := not_not.mp hsame
    dsimp only at h
    split at h
    · cases h
    case isFalse hsurface =>
      simp only [Bool.or_eq_true, Bool.not_eq_true', not_or, Bool.not_eq_false, Bool.not_eq_true]
        at hsurface
      obtain ⟨⟨hselected, hunselected⟩, -⟩ := hsurface
      have htool : ∀ tool, Enables item tool ↔ tool ∈ MCP_TOOLS := by
        intro tool
        obtain ⟨hlookup, hmem⟩ := lookup_toggles htools htoggles tool
        constructor
        · intro henables
          have hnot := List.any_eq_false.mp hunselected _ (hmem.mpr henables)
          simpa using hnot
        · intro hin
          exact hlookup.mp (of_decide_eq_true (List.all_eq_true.mp hselected tool hin))
      split at h
      case h_1 fields hfields =>
        obtain ⟨endpoint, hendpoint, h⟩ := bind_eq_ok.mp h
        split at h
        · cases h
        case isFalse hbound =>
          exact ⟨hsame ▸ hname, ⟨fields, endpoint, hfields, hendpoint,
            isTexts_singleton.mp (by simpa using hbound)⟩, htool⟩
      case h_2 => cases h

/-- A native connection that passes has the two tools off. -/
theorem quiet_of_reviewNative {tools : List Py} {toggles : List (Text × Bool)}
    (htools : item.get "tools" = .list tools) (htoggles : tools.foldlM toggle [] = .ok toggles)
    (h : reviewNative toggles = .ok ()) :
    ∀ tool ∈ ["publish_analysis", "save_correction"].map js, ¬ Enables item tool := by
  rw [reviewNative] at h
  split at h
  case isTrue hoff =>
    intro tool htool henables
    obtain ⟨name, hname, rfl⟩ := List.mem_map.mp htool
    have hlookup := of_decide_eq_true (List.all_eq_true.mp hoff name hname)
    rw [(lookup_toggles htools htoggles (js name)).1.mpr henables] at hlookup
    cases hlookup
  case isFalse => cases h

/-- What a connection that passes is. -/
inductive Passes (env : Environ) (item : Py) : List Text → Prop
  | other (h : isActiveOf "datahub" item = false) (h' : isActiveOf "datahub-mcp" item = false) :
      Passes env item []
  | native (h : isActiveOf "datahub" item = true) (h' : isActiveOf "datahub-mcp" item = false)
      (hquiet : ∀ tool ∈ ["publish_analysis", "save_correction"].map js, ¬ Enables item tool) :
      Passes env item []
  | mcp (h : isActiveOf "datahub" item = false) (h' : isActiveOf "datahub-mcp" item = true)
      (hconfigured : Configured env item) : Passes env item [env.mcpConnection]

theorem any_of_inTexts {v : Py} {texts : List Text} {found : Bool} (h : inTexts v texts = .ok found) :
    texts.any v.isText = found := by
  cases v with
  | list | dict => cases h
  | _ => exact Except.ok.inj h

theorem inTexts_eq_ok {v : Py} {known : Bool}
    (h : inTexts v (["datahub", "datahub-mcp"].map js) = .ok known) :
    known = (v.isText (js "datahub") || v.isText (js "datahub-mcp")) := by
  rw [← any_of_inTexts h]
  simp

/-- A value is one text at most. -/
theorem isText_other {v : Py} {s t : String} (hne : js s ≠ js t) (h : v.isText (js s) = true) :
    v.isText (js t) = false := by
  rw [Py.isText_iff] at h
  rw [← Bool.not_eq_true, Py.isText_iff, h]
  exact fun heq => hne (Py.str.inj heq)

theorem connection_passes
    (h : connection env profile env.mcpConnection engineName state item = .ok result) :
    ∃ added, Passes env item added ∧ result.activeMcp = state.activeMcp ++ added := by
  rw [connection] at h
  split at h
  · cases h
  · obtain ⟨known, hknown, h⟩ := bind_eq_ok.mp h
    generalize hstate : (if ((item.get "name").isText engineName && isActive item) = true then
      { state with engineConnected := true } else state) = marked at h
    have hsame : marked.activeMcp = state.activeMcp := by
      rw [← hstate]
      split <;> rfl
    obtain rfl := inTexts_eq_ok hknown
    split at h
    case isTrue hother =>
      obtain rfl := Except.ok.inj h
      have hadded : marked.activeMcp = state.activeMcp ++ [] := by rw [hsame, List.append_nil]
      rw [Bool.or_eq_true, Bool.not_eq_true', Bool.not_eq_true', Bool.or_eq_false_iff] at hother
      rcases hother with ⟨hnative, hmcp⟩ | hinactive
      · refine ⟨[], .other ?_ ?_, hadded⟩
        · rw [isActiveOf, hnative, Bool.and_false]
        · rw [isActiveOf, hmcp, Bool.and_false]
      · refine ⟨[], .other ?_ ?_, hadded⟩
        · rw [isActiveOf, hinactive, Bool.false_and]
        · rw [isActiveOf, hinactive, Bool.false_and]
    case isFalse hours =>
      simp only [Bool.or_eq_true, Bool.not_eq_true', not_or, Bool.not_eq_false] at hours
      obtain ⟨htype, hactive⟩ := hours
      split at h
      case h_1 name hname =>
        split at h
        · cases h
        · split at h
          case h_1 tools htools =>
            split at h
            · cases h
            · obtain ⟨toggles, htoggles, h⟩ := bind_eq_ok.mp h
              split at h
              case isTrue hmcp =>
                obtain ⟨_, hreview, h⟩ := bind_eq_ok.mp h
                obtain rfl := Except.ok.inj h
                have hconfigured := configured_of_reviewMcp hname htools htoggles hreview
                have hsamename : name = env.mcpConnection :=
                  Py.str.inj (hname.symm.trans hconfigured.name)
                refine ⟨[env.mcpConnection], .mcp ?_ ?_ hconfigured, ?_⟩
                · rw [isActiveOf, isText_other (by decide) hmcp, Bool.and_false]
                · rw [isActiveOf, hactive, hmcp, Bool.and_self]
                · rw [← hsame, ← hsamename]
              case isFalse hnative =>
                obtain ⟨_, hreview, h⟩ := bind_eq_ok.mp h
                obtain rfl := Except.ok.inj h
                have hnative := Bool.not_eq_true _ ▸ hnative
                refine ⟨[], .native ?_ ?_ (quiet_of_reviewNative htools htoggles hreview), ?_⟩
                · rw [isActiveOf, hactive, htype.resolve_right (by simp [hnative]), Bool.and_self]
                · rw [isActiveOf, hnative, Bool.and_false]
                · rw [← hsame, List.append_nil]
          case h_2 => cases h
      case h_2 => cases h

/-- **All connections of an inventory that is accepted pass.** -/
theorem connections_pass {items : List Py}
    (h : items.foldlM (connection env profile env.mcpConnection engineName) state = .ok result) :
    (∀ item ∈ items, ∃ added, Passes env item added)
      ∧ result.activeMcp = state.activeMcp
        ++ (items.filter (isActiveOf "datahub-mcp")).map fun _ => env.mcpConnection := by
  induction items generalizing state with
  | nil =>
    obtain rfl := Except.ok.inj h
    exact ⟨fun _ hmem => absurd hmem List.not_mem_nil, (List.append_nil _).symm⟩
  | cons item items ih =>
    rw [List.foldlM_cons] at h
    obtain ⟨next, hnext, h⟩ := bind_eq_ok.mp h
    obtain ⟨added, hpasses, hadded⟩ := connection_passes hnext
    obtain ⟨hall, hresult⟩ := ih h
    refine ⟨List.forall_mem_cons.mpr ⟨⟨added, hpasses⟩, hall⟩, ?_⟩
    rw [hresult, hadded, List.append_assoc]
    congr 1
    cases hpasses with
    | other h h' | native h h' =>
      rw [List.filter_cons_of_neg (by simp [h'])]
      rfl
    | mcp h h' =>
      rw [List.filter_cons_of_pos h']
      rfl

/-! ## 6. The inventory -/

variable {toolSurfaceDigest : Text} {connections policy : Py}

/-- What is accepted is a list whose connections pass, one of them to an MCP server. -/
theorem passes_of_validateConnections
    (h : validateConnections env toolSurfaceDigest connections engineName = .ok policy) :
    ∃ items, connections = .list items ∧ (∀ item ∈ items, ∃ added, Passes env item added)
      ∧ (items.filter (isActiveOf "datahub-mcp")).length = 1 := by
  rw [validateConnections.eq_def] at h
  split at h
  case h_1 items =>
    split at h
    · cases h
    · obtain ⟨identity, -, h⟩ := bind_eq_ok.mp h
      dsimp only at h
      split at h
      · cases h
      · obtain ⟨found, hfound, h⟩ := bind_eq_ok.mp h
        split at h
        · cases h
        · split at h
          · cases h
          case isFalse hmcp =>
            obtain ⟨hpass, hactive⟩ := connections_pass hfound
            refine ⟨items, rfl, hpass, ?_⟩
            have hlength := congrArg List.length (hactive.symm.trans (not_not.mp hmcp))
            simpa using hlength
  case h_2 => cases h

/-- A tool that writes is not one of those that are selected. -/
theorem not_selected : ∀ tool ∈ MUTATION_TOOLS, tool ∉ MCP_TOOLS := by decide

/-- The tools that write are looked at or are not. -/
theorem mutation_tools : ∀ tool ∈ MUTATION_TOOLS,
    tool ∈ ["publish_analysis", "save_correction"].map js ∨ tool ∈ UNREVIEWED_TOOLS := by decide

theorem unreviewed_tools : ∀ tool ∈ UNREVIEWED_TOOLS, tool ∈ MUTATION_TOOLS := by decide

/-- **An inventory that is accepted lets no tool write, and has the configured connection as the only one
to an MCP server, if and only if** no native connection has one of the four tools that are not looked
at. -/
theorem accepted_readOnly_iff {items : List Py}
    (h : validateConnections env toolSurfaceDigest (.list items) engineName = .ok policy) :
    ReadOnly items ∧ McpBound env items ↔ NativeQuiet items := by
  obtain ⟨_, heq, hpass, hone⟩ := passes_of_validateConnections h
  obtain rfl := Py.list.inj heq
  constructor
  · rintro ⟨hreadOnly, -⟩ item hitem hnative tool htool
    exact hreadOnly item hitem (Or.inl hnative) tool (unreviewed_tools tool htool)
  · intro hquiet
    constructor
    · intro item hitem hactive tool htool henables
      obtain ⟨added, hpasses⟩ := hpass item hitem
      cases hpasses with
      | other h h' => exact absurd hactive (by simp [h, h'])
      | native h h' hoff =>
        rcases mutation_tools tool htool with hreviewed | hother
        · exact hoff tool hreviewed henables
        · exact hquiet item hitem h tool hother henables
      | mcp h h' hconfigured => exact not_selected tool htool ((hconfigured.tools tool).mp henables)
    · obtain ⟨item, hfilter⟩ := List.length_eq_one_iff.mp hone
      have hmem : item ∈ items.filter (isActiveOf "datahub-mcp") := by
        rw [hfilter]
        exact List.mem_cons_self
      obtain ⟨hitem, hmcp⟩ := List.mem_filter.mp hmem
      obtain ⟨added, hpasses⟩ := hpass item hitem
      cases hpasses with
      | other h h' => rw [hmcp] at h'; cases h'
      | native h h' hoff => rw [hmcp] at h'; cases h'
      | mcp h h' hconfigured => exact ⟨item, hfilter, hconfigured⟩

/-- A tool with its switch. -/
def switch (name : Text) (enabled : Bool) : Py := .object [("name", .str name), ("enabled", .bool enabled)]

/-- The connection to the MCP server of the Core runtime. -/
def mcpConnection : Py := .object [("name", .lit "archon-datahub-mcp"), ("type", .lit "datahub-mcp"),
  ("status", .lit "connected"), ("disabled", .bool false),
  ("fields", .list [.object [("key", .lit "url"), ("value", .lit "http://archon-read-mcp:8000/mcp")]]),
  ("tools", .list (MCP_TOOLS.map (switch · true)))]

/-- A native connection with another tool. -/
def nativeConnection (other : Bool) : Py := .object [("name", .lit "native"), ("type", .lit "datahub"),
  ("status", .lit "connected"), ("disabled", .bool false),
  ("tools", .list [switch (js "publish_analysis") false, switch (js "save_correction") false,
    switch (js "add_tags") other])]

/-- The engine. -/
def engineConnection : Py := .object [("name", .lit "archon-judge"), ("type", .lit "duckdb"),
  ("status", .lit "connected"), ("disabled", .bool false), ("tools", .list [])]

/-- An inventory with the three. -/
def inventory (other : Bool) : List Py := [mcpConnection, nativeConnection other, engineConnection]

/-- The environment of the Core runtime. -/
def coreEnviron : Environ where
  profileId := js "core"
  generation := js "g1"
  capabilityDigest := js "sha256:" ++ List.replicate 64 0x61
  mcpConnection := js "archon-datahub-mcp"
  mcpUrl := none
  cloudEndpoint := none

/-- The text of a policy's digest does not matter here. -/
def surfaceDigest : Text := js "sha256:" ++ List.replicate 64 0x62

theorem inventory_accepted (other : Bool) : ∃ policy, validateConnections coreEnviron surfaceDigest
    (.list (inventory other)) (js "archon-judge") = .ok policy := by
  cases other with
  | false => exact ⟨_, rfl⟩
  | true => exact ⟨_, rfl⟩

/-- A native connection with the other tool off is quiet. -/
theorem inventory_quiet : ReadOnly (inventory false) ∧ McpBound coreEnviron (inventory false) := by
  obtain ⟨policy, hpolicy⟩ := inventory_accepted false
  refine (accepted_readOnly_iff hpolicy).mpr fun item hitem hnative tool _ => ?_
  simp only [inventory, List.mem_cons, List.not_mem_nil, or_false] at hitem
  rcases hitem with rfl | rfl | rfl
  · exact absurd hnative (by decide)
  · rintro ⟨tools, htools, t, ht, -, henabled⟩
    obtain rfl := Py.list.inj (show Py.list _ = .list tools from htools)
    simp only [List.mem_cons, List.not_mem_nil, or_false] at ht
    rcases ht with rfl | rfl | rfl
    · cases henabled
    · cases henabled
    · cases henabled
  · exact absurd hnative (by decide)

/-- **An inventory with the other tool on is accepted.** -/
theorem inventory_writes : ∃ policy, validateConnections coreEnviron surfaceDigest
    (.list (inventory true)) (js "archon-judge") = .ok policy ∧ ¬ ReadOnly (inventory true) := by
  obtain ⟨policy, hpolicy⟩ := inventory_accepted true
  refine ⟨policy, hpolicy, fun hreadOnly => ?_⟩
  refine hreadOnly (nativeConnection true) (by simp [inventory]) (Or.inl (by decide)) (js "add_tags")
    (by decide) ⟨_, rfl, switch (js "add_tags") true, by simp, rfl, rfl⟩

end Companion
