/-
# The report as Markdown

`auditReportToMarkdown` of `exporters.ts` renders a report that is accepted: a list of what ran, a table
with one row for each finding, and the narrative.  What comes from the catalog goes through
`markdownText`, which escapes pipes, backslashes and brackets and leaves no backtick and no end of a line.

A backslash is doubled before a pipe gets its own, so that each pipe of a text stands after an odd number
of them: no dialect takes it for the end of a cell (`findings_table`).
-/
import Archon.Markdown.Tables
import Archon.Report.Provenance
import Archon.Report.Public
import Archon.Worker.Brief

namespace Report

open Ecma Ecma.Value Worker Markdown

/-! ## 1. markdownText -/

/-- `t.replace(/[…]/gu, s)`, for a class of units. -/
def replaceUnits (p : UInt16 → Bool) (s : Text) (t : Text) : Text := t.flatMap fun u => if p u then s else [u]

/-- `t.replaceAll(u, s)`. -/
def replaceAll (t : Text) (u : UInt16) (s : String) : Text := replaceUnits (· == u) (js s) t

/-- `[\u061C\u200E\u200F\u202A-\u202E\u2066-\u2069]`. -/
def isDirectional (u : UInt16) : Bool :=
  u == 0x061C || u == 0x200E || u == 0x200F || (0x202A ≤ u && u ≤ 0x202E) || (0x2066 ≤ u && u ≤ 0x2069)

/-- `\w`, without regard to case: the long s and the Kelvin sign are letters too. -/
def isWordUnit (u : UInt16) : Bool := isAlphanumeric u || u == 0x5F || u == 0x017F || u == 0x212A

/-- The schemes that are blocked. -/
def ACTIVE_SCHEMES : List String := ["javascript:", "vbscript:", "data:"]

/-- The length of the scheme that a text begins with. -/
def schemeLength (t : Text) : Option Nat :=
  (ACTIVE_SCHEMES.find? fun s => (t.take (js s).length).map foldUnit = js s).map fun s => (js s).length

/-- `t.replace(/\b(?:javascript|vbscript|data):/giu, "blocked-active-scheme ")`.  So many units belong to
a scheme that is replaced already, and the unit before may be of a word. -/
def blockSchemes : Nat → Bool → Text → Text
  | _, _, [] => []
  | skip + 1, _, u :: t => blockSchemes skip (isWordUnit u) t
  | 0, afterWord, u :: t =>
    match if afterWord then none else schemeLength (u :: t) with
    | some n => js "blocked-active-scheme " ++ blockSchemes (n - 1) (isWordUnit u) t
    | none => u :: blockSchemes 0 (isWordUnit u) t

/-- The replacements that escape. -/
def escaped (t : Text) : Text :=
  let t := replaceAll t backslash "\\\\"
  let t := replaceAll t 0x26 "&amp;"
  let t := replaceAll t 0x3C "&lt;"
  let t := replaceAll t 0x3E "&gt;"
  let t := replaceAll t pipe "\\|"
  let t := replaceAll t backtick "'"
  let t := replaceAll t 0x5B "\\["
  let t := replaceAll t 0x5D "\\]"
  let t := replaceAll t carriageReturn " "
  replaceAll t newline " "

/-- `markdownText`, of a text. -/
def markdownText (value : Text) : Text :=
  escaped (blockSchemes 0 false (replaceUnits isDirectional [] (replaceUnits isControl (js " ") value)))

/-! ## 2. The document -/

/-- `String(v)`, of a value of the report, which is a text or a number. -/
def shown (v : Value) : Text :=
  match (v.toText : Js Empty Text) with
  | .ok t => t
  | .error _ => []

/-- `v ?? …` for a member that is `null` where there was no call. -/
def orElse (v : Value) (otherwise : String) : Text := if v.strictEq .null then js otherwise else shown v

/-- The token usage. -/
def usageText (usage : Value) : Text :=
  if usage.strictEq .null then js "not available"
  else shown (usage.getPath ["inputTokens"]) ++ js " input / " ++ shown (usage.getPath ["outputTokens"])
    ++ js " output / " ++ shown (usage.getPath ["totalTokens"]) ++ js " total"

/-- The latency. -/
def latencyText (latencyMs : Value) : Text :=
  if latencyMs.strictEq .null then js "not applicable" else shown latencyMs ++ js " ms (client measured)"

/-- `findings`, as a list. -/
def findingsOf (report : Value) : List Value :=
  match report.getPath ["findings"] with
  | .arr items => items
  | _ => []

/-- The lines before the table. -/
def headLines (report : Value) : List Text :=
  let provenance := report.getPath ["modelProvenance"]
  [js "# Archon DataHub audit",
    [],
    js "- Scan: `" ++ markdownText (shown (report.getPath ["scanId"])) ++ js "`",
    js "- Findings: " ++ decimalText (findingsOf report).length,
    js "- Entities: " ++ shown (report.getPath ["classification", "totalEntities"]),
    js "- Runtime: " ++ markdownText (shown (provenance.getPath ["source"])),
    js "- Model call: " ++ if (provenance.getPath ["modelCall"]).truthy then js "yes" else js "no",
    js "- Provider: " ++ markdownText (shown (provenance.getPath ["provider"])),
    js "- Requested model: " ++ markdownText (shown (provenance.getPath ["requestedModel"])),
    js "- Returned model: " ++ markdownText (orElse (provenance.getPath ["returnedModel"]) "not applicable"),
    js "- Provider response ID: "
      ++ markdownText (orElse (provenance.getPath ["providerResponseId"]) "not applicable"),
    js "- Token usage: " ++ markdownText (usageText (provenance.getPath ["tokenUsage"])),
    js "- Latency: " ++ markdownText (latencyText (provenance.getPath ["latencyMs"])),
    [],
    js "## Findings",
    []]

/-- The header of the table, and its delimiter row. -/
def headerLine : Text := js "| Severity | Type | Subject | Finding | Downstream |"

def delimiterLine : Text := js "|---|---|---|---|---:|"

/-- How many assets are downstream of a finding. -/
def downstreamText (finding : Value) : Text :=
  let blast := finding.getPath ["detail", "blastRadius"]
  match blast.getPath ["downstream"] with
  | .arr items => decimalText items.length ++ if (blast.getPath ["truncated"]).truthy then js "+" else []
  | _ => js "0"

/-- The row of a finding. -/
def findingLine (finding : Value) : Text :=
  js "| " ++ shown (finding.getPath ["severity"]) ++ js " | " ++ shown (finding.getPath ["type"]) ++ js " | `"
    ++ markdownText (shown (finding.getPath ["subject"])) ++ js "` | "
    ++ markdownText (shown (finding.getPath ["summary"])) ++ js " | " ++ downstreamText finding ++ js " |"

/-- The lines after the table. -/
def tailLines (report : Value) : List Text :=
  [[], js "## Executive summary", [], markdownText (shown (report.getPath ["narrative"])), []]

/-- `auditReportToMarkdown`. -/
def auditReportToMarkdown (report : Value) : Except Text Text :=
  if isAuditReport report then
    .ok ([newline].intercalate (headLines report ++ headerLine :: delimiterLine ::
      ((findingsOf report).map findingLine ++ tailLines report)))
  else .error (js "Audit report is absent or does not satisfy archon.audit-report/v1.")

/-! ## 3. What is escaped -/

section Escaped

variable {s t : Text} {u v : UInt16}

/-- A text that ends neither its cell nor its line, and opens no code span. -/
structure Rendered (t : Text) : Prop where
  quoted : Quoted t
  no_span : backtick ∉ t
  one_line : OneLine t

theorem rendered_nil : Rendered [] := ⟨.nil, List.not_mem_nil, List.not_mem_nil, List.not_mem_nil⟩

theorem Rendered.append (hs : Rendered s) (ht : Rendered t) : Rendered (s ++ t) where
  quoted := hs.quoted.append ht.quoted
  no_span hmem := (List.mem_append.mp hmem).elim hs.no_span ht.no_span
  one_line := hs.one_line.append ht.one_line

/-- Units that need no escape. -/
def tame (u : UInt16) : Bool :=
  u != pipe && u != backslash && u != backtick && u != newline && u != carriageReturn

theorem rendered_of_tame (h : t.all tame = true) : Rendered t := by
  have htame : ∀ u ∈ t, u ≠ pipe ∧ u ≠ backslash ∧ u ≠ backtick ∧ u ≠ newline ∧ u ≠ carriageReturn := by
    intro u hu
    have hu := List.all_eq_true.mp h u hu
    simp only [tame, Bool.and_eq_true, bne_iff_ne, ne_eq, and_assoc] at hu
    exact hu
  refine ⟨quoted_of_plain fun u hu => ⟨(htame u hu).1, (htame u hu).2.1⟩, fun hmem => ?_, fun hmem => ?_,
    fun hmem => ?_⟩
  · exact (htame _ hmem).2.2.1 rfl
  · exact (htame _ hmem).2.2.2.1 rfl
  · exact (htame _ hmem).2.2.2.2 rfl

theorem replaceUnits_append (p : UInt16 → Bool) (r s t : Text) :
    replaceUnits p r (s ++ t) = replaceUnits p r s ++ replaceUnits p r t := List.flatMap_append

theorem escaped_append (s t : Text) : escaped (s ++ t) = escaped s ++ escaped t := by
  simp only [escaped, replaceAll, replaceUnits_append]

theorem replaceAll_of_ne {r : String} (h : u ≠ v) : replaceAll [u] v r = [u] := by
  simp [replaceAll, replaceUnits, h]

/-- The units that are escaped. -/
def ESCAPED : List UInt16 :=
  [backslash, 0x26, 0x3C, 0x3E, pipe, backtick, 0x5B, 0x5D, carriageReturn, newline]

theorem escaped_of_not_mem (h : u ∉ ESCAPED) : escaped [u] = [u] := by
  simp only [ESCAPED, List.mem_cons, List.not_mem_nil, not_or, or_false] at h
  obtain ⟨h1, h2, h3, h4, h5, h6, h7, h8, h9, h10⟩ := h
  simp only [escaped, replaceAll_of_ne h1, replaceAll_of_ne h2, replaceAll_of_ne h3, replaceAll_of_ne h4,
    replaceAll_of_ne h5, replaceAll_of_ne h6, replaceAll_of_ne h7, replaceAll_of_ne h8, replaceAll_of_ne h9,
    replaceAll_of_ne h10]

/-- A backslash before a unit of a line that is no backtick. -/
theorem rendered_pair (h : u ≠ backtick) (hnew : u ≠ newline) (hret : u ≠ carriageReturn) :
    Rendered [backslash, u] := by
  have hmem : ∀ v, v ≠ backslash → u ≠ v → v ∉ [backslash, u] := by
    intro v hv hu
    exact List.not_mem_cons_of_ne_of_not_mem hv (List.not_mem_cons_of_ne_of_not_mem (Ne.symm hu) List.not_mem_nil)
  exact ⟨.pair .nil, hmem _ (by decide) h, hmem _ (by decide) hnew, hmem _ (by decide) hret⟩

/-- **What one unit is escaped to.** -/
theorem rendered_unit (u : UInt16) : Rendered (escaped [u]) := by
  by_cases h : u ∈ ESCAPED
  · simp only [ESCAPED, List.mem_cons, List.not_mem_nil, or_false] at h
    rcases h with rfl | rfl | rfl | rfl | rfl | rfl | rfl | rfl | rfl | rfl
    · exact rendered_pair (by decide) (by decide) (by decide)
    · exact rendered_of_tame (by decide)
    · exact rendered_of_tame (by decide)
    · exact rendered_of_tame (by decide)
    · exact rendered_pair (by decide) (by decide) (by decide)
    · exact rendered_of_tame (by decide)
    · exact rendered_pair (by decide) (by decide) (by decide)
    · exact rendered_pair (by decide) (by decide) (by decide)
    · exact rendered_of_tame (by decide)
    · exact rendered_of_tame (by decide)
  · rw [escaped_of_not_mem h]
    refine rendered_of_tame ?_
    simp only [ESCAPED, List.mem_cons, List.not_mem_nil, not_or, or_false] at h
    simp [tame, h]

/-- **Whatever is escaped is rendered.** -/
theorem rendered_escaped (t : Text) : Rendered (escaped t) := by
  induction t with
  | nil => exact rendered_nil
  | cons u t ih =>
    have hcons := escaped_append [u] t
    rw [List.singleton_append] at hcons
    rw [hcons]
    exact (rendered_unit u).append ih

theorem rendered_markdownText (t : Text) : Rendered (markdownText t) := rendered_escaped _

end Escaped

/-! ## 4. The document -/

section Document

variable {d : Dialect} {report finding : Value}

theorem tame_decimalText (n : Nat) : (decimalText n).all tame = true := by
  rw [List.all_eq_true]
  intro u hu
  have hdigit := List.all_eq_true.mp (isDigit_decimalText n) u hu
  rw [isDigit, Bool.and_eq_true, decide_eq_true_iff, decide_eq_true_iff] at hdigit
  have hne : ∀ v : UInt16, ¬(0x30 ≤ v ∧ v ≤ 0x39) → u ≠ v := by
    rintro v hv rfl
    exact hv hdigit
  simp [tame, hne pipe (by decide), hne backslash (by decide), hne backtick (by decide),
    hne newline (by decide), hne carriageReturn (by decide)]

/-- A count is shown in digits, but for a sign. -/
theorem tame_shown {v : Value} {n : Nat} (h : safeCount v = some n) : (shown v).all tame = true := by
  obtain ⟨x, rfl, hmag, hlt, -⟩ := count_of_safeCount h
  change (Number.finite x).text.all tame = true
  rcases Nat.eq_zero_or_pos n with rfl | hpos
  · have hman : x.man = 0 := by
      have hpow : (2 : ℚ) ^ x.exp ≠ 0 := by positivity
      have hzero : (x.man : ℚ) * 2 ^ x.exp = 0 := by
        rw [← Binary64.magnitude, hmag, Nat.cast_zero]
      exact_mod_cast (mul_eq_zero.mp hzero).resolve_right hpow
    rw [Number.text, if_pos hman]
    decide
  · rw [text_of_magnitude hmag hpos hlt, List.all_append, tame_decimalText]
    cases x.neg <;> decide

/-- A literal is shown as it is. -/
theorem shown_of_isOneOf {v : Value} {names : List String} (h : isOneOf v names = true) :
    ∃ name ∈ names, shown v = js name := by
  obtain ⟨name, hname, htext⟩ := List.any_eq_true.mp h
  rw [isText_iff] at htext
  rw [htext]
  exact ⟨name, hname, by rw [shown, toText_str]⟩

/-- The cells of the row of a finding. -/
def rowOf (finding : Value) : List Text :=
  [js " " ++ shown (finding.getPath ["severity"]) ++ js " ", js " " ++ shown (finding.getPath ["type"]) ++ js " ",
    js " `" ++ markdownText (shown (finding.getPath ["subject"])) ++ js "` ",
    js " " ++ markdownText (shown (finding.getPath ["summary"])) ++ js " ",
    js " " ++ downstreamText finding ++ js " "]

theorem findingLine_eq (finding : Value) : findingLine finding = rowLine (rowOf finding) := by
  have hspace : js " " = [0x20] := by decide
  have hopen : js "| " = [pipe, 0x20] := by decide
  have hpart : js " | " = [0x20, pipe, 0x20] := by decide
  have hclose : js " |" = [0x20, pipe] := by decide
  have htick : js " | `" = [0x20, pipe, 0x20, backtick] := by decide
  have htick' : js "` | " = [backtick, 0x20, pipe, 0x20] := by decide
  have hspan : js " `" = [0x20, backtick] := by decide
  have hspan' : js "` " = [backtick, 0x20] := by decide
  simp [findingLine, rowLine, rowOf, hspace, hopen, hpart, hclose, htick, htick', hspan, hspan']

/-- A text between blanks is a cell. -/
theorem whole_blanks {t : Text} (h : Rendered t) : Whole d (js " " ++ t ++ js " ") :=
  whole_of_quoted ((quoted_of_plain (plain_of_all (by decide))).append h.quoted)

theorem tame_downstreamText (finding : Value) : (downstreamText finding).all tame = true := by
  rw [downstreamText]
  split
  · rw [List.all_append, tame_decimalText]
    split <;> decide
  · decide

/-- What is known of the texts of a finding. -/
structure FindingTexts (finding : Value) : Prop where
  severity : Rendered (shown (finding.getPath ["severity"]))
  type : Rendered (shown (finding.getPath ["type"]))
  downstream : Rendered (downstreamText finding)

theorem findingTexts (h : isFinding finding = true) : FindingTexts finding := by
  simp only [isFinding, Bool.and_eq_true] at h
  obtain ⟨⟨⟨⟨⟨⟨-, htype⟩, hseverity⟩, -⟩, -⟩, -⟩, -⟩ := h
  obtain ⟨type, htype, heq⟩ := shown_of_isOneOf htype
  obtain ⟨severity, hseverity, heq'⟩ := shown_of_isOneOf hseverity
  refine ⟨?_, ?_, rendered_of_tame (tame_downstreamText finding)⟩
  · rw [heq']
    refine rendered_of_tame ?_
    simp only [List.mem_cons, List.not_mem_nil, or_false] at hseverity
    rcases hseverity with rfl | rfl | rfl <;> decide
  · rw [heq]
    refine rendered_of_tame ?_
    simp only [List.mem_cons, List.not_mem_nil, or_false] at htype
    rcases htype with rfl | rfl | rfl <;> decide

/-- **The cells of a finding are cells.** -/
theorem whole_rowOf (h : isFinding finding = true) : ∀ c ∈ rowOf finding, Whole d c := by
  have htexts := findingTexts h
  simp only [rowOf, List.mem_cons, List.not_mem_nil, or_false]
  rintro c (rfl | rfl | rfl | rfl | rfl)
  · exact whole_blanks htexts.severity
  · exact whole_blanks htexts.type
  · have hquoted : Quoted (js " `" ++ markdownText (shown (finding.getPath ["subject"])) ++ js "`") :=
      ((quoted_of_plain (plain_of_all (by decide))).append (rendered_markdownText _).quoted).append
        (quoted_of_plain (plain_of_all (by decide)))
    have hwhole : Whole d _ := whole_of_quoted hquoted
    rw [List.append_assoc] at hwhole
    exact hwhole
  · exact whole_blanks (rendered_markdownText _)
  · exact whole_blanks htexts.downstream

/-- What is known of a report that is accepted. -/
theorem report_spec (h : isAuditReport report = true) :
    (∀ finding ∈ findingsOf report, isFinding finding = true)
      ∧ ∃ n, safeCount (report.getPath ["classification", "totalEntities"]) = some n := by
  simp only [isAuditReport, Bool.and_eq_true] at h
  obtain ⟨⟨⟨⟨⟨-, hclass⟩, hfindings⟩, -⟩, -⟩, -⟩ := h
  constructor
  · intro finding hfinding
    rw [findingsOf] at hfinding
    cases hitems : report.getPath ["findings"] with
    | arr items =>
      rw [hitems] at hfinding hfindings
      rw [isListOf, Bool.and_eq_true, List.all_eq_true] at hfindings
      exact hfindings.2 finding hfinding
    | _ =>
      rw [hitems] at hfinding
      cases hfinding
  · simp only [isClassification, Bool.and_eq_true] at hclass
    obtain ⟨⟨⟨-, hcounts⟩, -⟩, -⟩ := hclass
    rw [getPath_pair]
    cases htotal : safeCount ((report.getPath ["classification"]).getPath ["totalEntities"]) with
    | some n => exact ⟨n, htotal⟩
    | none =>
      rw [htotal] at hcounts
      cases hcounts

/-- The header of the table. -/
def HEADER : List Text := [js " Severity ", js " Type ", js " Subject ", js " Finding ", js " Downstream "]

theorem cells_headerLine : cells d headerLine = HEADER := by
  have hrow : headerLine = rowLine HEADER := by decide
  rw [hrow]
  refine cells_rowLine ?_
  simp only [HEADER, List.mem_cons, List.not_mem_nil, or_false]
  rintro c (rfl | rfl | rfl | rfl | rfl) <;> exact whole_of_plain (plain_of_all (by decide))

theorem cells_delimiterLine :
    cells d delimiterLine = [js "---", js "---", js "---", js "---", js "---:"] := by
  have hrow : delimiterLine = rowLine [js "---", js "---", js "---", js "---", js "---:"] := by decide
  rw [hrow]
  refine cells_rowLine ?_
  simp only [List.mem_cons, List.not_mem_nil, or_false]
  rintro c (rfl | rfl | rfl | rfl | rfl) <;> exact whole_of_plain (plain_of_all (by decide))

/-- A line that begins with a pipe goes on with a table. -/
theorem isRow_pipe (t : Text) : isRow d (pipe :: t) = true := by
  rw [isRow, d.opensBlock_pipe]
  rfl

/-- A line that begins with a word after a mark. -/
theorem not_delimiter_of_words {s : String} (t : Text)
    (hs : ((js s).all fun u => u != pipe && u != backslash) = true)
    (h : ((js s).any fun u => !isBlank u && u != 0x2D && u != 0x3A) = true) :
    isDelimiterRow d (js s ++ t) = false := by
  obtain ⟨u, hu, hunit⟩ := List.any_eq_true.mp h
  simp only [Bool.and_eq_true, Bool.not_eq_true', bne_iff_ne, ne_eq] at hunit
  exact not_delimiterRow (plain_of_all hs) hu hunit.1.1 hunit.1.2 hunit.2 t

theorem headLines_not_delimiter : ∀ l ∈ headLines report, isDelimiterRow d l = false := by
  simp only [headLines, List.mem_cons, List.not_mem_nil, or_false]
  rintro l (rfl | rfl | rfl | rfl | rfl | rfl | rfl | rfl | rfl | rfl | rfl | rfl | rfl | rfl | rfl | rfl)
  · have h := not_delimiter_of_words (d := d) (s := "# Archon DataHub audit") [] (by decide) (by decide)
    rwa [List.append_nil] at h
  · exact not_delimiterRow_nil
  · rw [List.append_assoc]
    exact not_delimiter_of_words _ (by decide) (by decide)
  · exact not_delimiter_of_words _ (by decide) (by decide)
  · exact not_delimiter_of_words _ (by decide) (by decide)
  · exact not_delimiter_of_words _ (by decide) (by decide)
  · exact not_delimiter_of_words _ (by decide) (by decide)
  · exact not_delimiter_of_words _ (by decide) (by decide)
  · exact not_delimiter_of_words _ (by decide) (by decide)
  · exact not_delimiter_of_words _ (by decide) (by decide)
  · exact not_delimiter_of_words _ (by decide) (by decide)
  · exact not_delimiter_of_words _ (by decide) (by decide)
  · exact not_delimiter_of_words _ (by decide) (by decide)
  · exact not_delimiterRow_nil
  · have h := not_delimiter_of_words (d := d) (s := "## Findings") [] (by decide) (by decide)
    rwa [List.append_nil] at h
  · exact not_delimiterRow_nil

/-- A literal is one line. -/
theorem oneLine_js {s : String} (h : (js s).all tame = true) : OneLine (js s) := (rendered_of_tame h).one_line

/-- A literal with a text is one line. -/
theorem oneLine_markdown {s : String} (h : (js s).all tame = true) (t : Text) :
    OneLine (js s ++ markdownText t) := (oneLine_js h).append (rendered_markdownText t).one_line

theorem headLines_oneLine (h : isAuditReport report = true) : ∀ l ∈ headLines report, OneLine l := by
  have htick : OneLine (js "`") := by
    constructor <;> decide
  have hscan : OneLine (js "- Scan: `") := by
    constructor <;> decide
  obtain ⟨n, htotal⟩ := (report_spec h).2
  simp only [headLines, List.mem_cons, List.not_mem_nil, or_false]
  rintro l (rfl | rfl | rfl | rfl | rfl | rfl | rfl | rfl | rfl | rfl | rfl | rfl | rfl | rfl | rfl | rfl)
  · exact oneLine_js (by decide)
  · exact rendered_nil.one_line
  · exact (hscan.append (rendered_markdownText _).one_line).append htick
  · exact (oneLine_js (by decide)).append (rendered_of_tame (tame_decimalText _)).one_line
  · exact (oneLine_js (by decide)).append (rendered_of_tame (tame_shown htotal)).one_line
  · exact oneLine_markdown (by decide) _
  · refine (oneLine_js (by decide)).append ?_
    split <;> exact oneLine_js (by decide)
  · exact oneLine_markdown (by decide) _
  · exact oneLine_markdown (by decide) _
  · exact oneLine_markdown (by decide) _
  · exact oneLine_markdown (by decide) _
  · exact oneLine_markdown (by decide) _
  · exact oneLine_markdown (by decide) _
  · exact rendered_nil.one_line
  · exact oneLine_js (by decide)
  · exact rendered_nil.one_line

theorem oneLine_findingLine (h : isFinding finding = true) : OneLine (findingLine finding) := by
  have htexts := findingTexts h
  have htick : OneLine (js " | `") := by
    constructor <;> decide
  have htick' : OneLine (js "` | ") := by
    constructor <;> decide
  have hpart : OneLine (js " | ") := by
    constructor <;> decide
  have hopen : OneLine (js "| ") := by
    constructor <;> decide
  have hclose : OneLine (js " |") := by
    constructor <;> decide
  exact (((((((((hopen.append htexts.severity.one_line).append hpart).append htexts.type.one_line).append
    htick).append (rendered_markdownText _).one_line).append htick').append
    (rendered_markdownText _).one_line).append hpart).append htexts.downstream.one_line).append hclose

theorem tailLines_oneLine : ∀ l ∈ tailLines report, OneLine l := by
  have hsummary : OneLine (js "## Executive summary") := oneLine_js (by decide)
  have hnarrative := (rendered_markdownText (shown (report.getPath ["narrative"]))).one_line
  exact List.forall_mem_cons.mpr ⟨rendered_nil.one_line, List.forall_mem_cons.mpr ⟨hsummary,
    List.forall_mem_cons.mpr ⟨rendered_nil.one_line, List.forall_mem_cons.mpr ⟨hnarrative,
      List.forall_mem_singleton.mpr rendered_nil.one_line⟩⟩⟩⟩

/-- The lines of the document. -/
def documentLines (report : Value) : List Text :=
  headLines report ++ headerLine :: delimiterLine :: ((findingsOf report).map findingLine ++ tailLines report)

theorem linesOf_document (h : isAuditReport report = true) :
    linesOf ([newline].intercalate (documentLines report)) = documentLines report := by
  refine linesOf_join ?_ (List.append_ne_nil_of_right_ne_nil _ (List.cons_ne_nil _ _))
  intro l hl
  rcases List.mem_append.mp hl with hl | hl
  · exact headLines_oneLine h l hl
  · rcases List.mem_cons.mp hl with rfl | hl
    · constructor <;> decide
    · rcases List.mem_cons.mp hl with rfl | hl
      · constructor <;> decide
      · rcases List.mem_append.mp hl with hl | hl
        · obtain ⟨finding, hfinding, rfl⟩ := List.mem_map.mp hl
          exact oneLine_findingLine ((report_spec h).1 finding hfinding)
        · exact tailLines_oneLine l hl

/-- **The tables of the document**: one. -/
theorem tables_document (h : isAuditReport report = true) :
    tables d (documentLines report) = [⟨HEADER, (findingsOf report).map rowOf⟩] := by
  have hheader : isDelimiterRow d headerLine = false := by
    rw [isDelimiterRow, cells_headerLine]
    decide
  have hdelimiter : isDelimiterRow d delimiterLine = true := by
    rw [isDelimiterRow, cells_delimiterLine]
    decide
  have hrows : ∀ l ∈ (findingsOf report).map findingLine, isRow d l = true := by
    intro l hl
    obtain ⟨finding, -, rfl⟩ := List.mem_map.mp hl
    rw [findingLine_eq]
    exact isRow_pipe _
  have hcells : ((findingsOf report).map findingLine).map (cells d) = (findingsOf report).map rowOf := by
    rw [List.map_map]
    refine List.map_congr_left fun finding hfinding => ?_
    rw [Function.comp_apply, findingLine_eq]
    exact cells_rowLine (whole_rowOf ((report_spec h).1 finding hfinding))
  have htail : tables d (tailLines report) = [] := by
    have hsummary : isDelimiterRow d (js "## Executive summary") = false := by
      have hwords := not_delimiter_of_words (d := d) (s := "## Executive summary") [] (by decide) (by decide)
      rwa [List.append_nil] at hwords
    rw [tailLines, tables_skip hsummary, tables_skip not_delimiterRow_nil, tables_skip_blank rfl,
      tables_skip not_delimiterRow_nil, tables_one]
  rw [documentLines, tables_skip_all headLines_not_delimiter hheader]
  have hrow : isRow d headerLine = true := by
    have hpipe : headerLine = pipe :: headerLine.tail := by decide
    rw [hpipe]
    exact isRow_pipe _
  have hlength : (cells d headerLine).length = (cells d delimiterLine).length := by
    rw [cells_headerLine, cells_delimiterLine]
    rfl
  have htable : tables d (headerLine :: delimiterLine ::
      ((findingsOf report).map findingLine ++ tailLines report)) = _ :=
    tables_table hrow hdelimiter hlength hrows rfl
  rw [cells_headerLine, hcells] at htable
  exact htable.trans (congrArg (_ :: ·) htail)

/-- A row of five cells: a code span is opened and closed around the subject, and nowhere else. -/
def FiveCells (row : List Text) : Prop :=
  ∃ severity type subject summary downstream,
    row = [severity, type, js " `" ++ subject ++ js "` ", summary, downstream]
      ∧ ∀ t ∈ [severity, type, subject, summary, downstream], backtick ∉ t

theorem fiveCells_rowOf (h : isFinding finding = true) : FiveCells (rowOf finding) := by
  have htexts := findingTexts h
  have hblank : backtick ∉ js " " := by decide
  have hblanks : ∀ {t}, backtick ∉ t → backtick ∉ js " " ++ t ++ js " " := by
    intro t ht hmem
    rcases List.mem_append.mp hmem with hmem | hmem
    · exact (List.mem_append.mp hmem).elim hblank ht
    · exact hblank hmem
  refine ⟨_, _, _, _, _, rfl, List.forall_mem_cons.mpr ⟨?_, List.forall_mem_cons.mpr ⟨?_,
    List.forall_mem_cons.mpr ⟨?_, List.forall_mem_cons.mpr ⟨?_, List.forall_mem_singleton.mpr ?_⟩⟩⟩⟩⟩
  · exact hblanks htexts.severity.no_span
  · exact hblanks htexts.type.no_span
  · exact (rendered_markdownText _).no_span
  · exact hblanks (rendered_markdownText _).no_span
  · exact hblanks htexts.downstream.no_span

/-- **The table of a report**: in every dialect the document has one table, with a row of five cells for
each finding. -/
theorem findings_table (d : Dialect) (h : isAuditReport report = true) :
    ∃ text, auditReportToMarkdown report = .ok text
      ∧ tables d (linesOf text) = [⟨HEADER, (findingsOf report).map rowOf⟩]
      ∧ ∀ finding ∈ findingsOf report, FiveCells (rowOf finding) := by
  refine ⟨_, if_pos h, ?_, fun finding hfinding => fiveCells_rowOf ((report_spec h).1 finding hfinding)⟩
  change tables d (linesOf ([newline].intercalate (documentLines report))) = _
  rw [linesOf_document h, tables_document h]

/-- A report with a finding whose texts are made to look like Markdown. -/
def hostileReport : Value :=
  object [("schemaVersion", lit "archon.audit-report/v1"), ("scanId", lit "scan-1"),
    ("classification", emptyReport.getPath ["classification"]),
    ("findings", .arr [object [("type", lit "lineage_gap"), ("severity", lit "high"),
      ("subject", lit "a|b`c\\|d\n| e |"), ("summary", lit "`|\\` | \r| x |"), ("detail", object [])]]),
    ("narrative", lit "|---|"), ("modelProvenance", emptyReport.getPath ["modelProvenance"]),
    ("trace", .arr [])]

theorem findings_table_hostile : ∃ text, auditReportToMarkdown hostileReport = .ok text
    ∧ tables .oneBackslash (linesOf text) = [⟨HEADER, (findingsOf hostileReport).map rowOf⟩]
    ∧ ∀ finding ∈ findingsOf hostileReport, FiveCells (rowOf finding) := by
  refine findings_table .oneBackslash ?_
  simp only [hostileReport, emptyReport, object, lit, List.map_cons, List.map_nil]
  repeat rw [js_ofList]
  decide +kernel

end Document

end Report
