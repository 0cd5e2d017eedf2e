import TableReach.Report.Output
import TableReach.Proofs.Text.Search
import Mathlib.Data.List.TakeWhile

/-!
# Colours of a report

With colours, some spans of a report stand between marks.  A mark is an escape, a
bracket, codes and an `m`.  Where the report itself holds no escape, the marks are all
that the colours add: deleting them gives the report without colours, line by line.
-/

namespace TableReach

/-! ## Deleting marks -/

/-- Which characters can be the codes of a mark, between its bracket and its `m`. -/
structure MarkCodes where
  /-- The character can be a code. -/
  admits : Char → Bool
  /-- Digits and semicolons can. -/
  admits_of_mem : ∀ character ∈ "0123456789;".toList, admits character = true
  /-- The `m` ends the codes. -/
  not_admits_end : admits 'm' = false

namespace MarkCodes

/-- Digits and semicolons only. -/
def numbers : MarkCodes where
  admits character := character.isDigit || character == ';'
  admits_of_mem := List.all_eq_true.mp rfl
  not_admits_end := rfl

/-- Everything up to the next `m`. -/
def anything : MarkCodes where
  admits character := character != 'm'
  admits_of_mem := List.all_eq_true.mp rfl
  not_admits_end := rfl

/-- The text behind a mark. -/
def afterMark? (codes : MarkCodes) (text : List Char) : Option (List Char) :=
  (Text.afterExact? ['\x1b', '['] text).bind fun behind =>
    Text.afterExact? ['m'] (behind.dropWhile codes.admits)

/-- A mark, of which nothing is left. -/
def mark (codes : MarkCodes) (text : List Char) : Option (List Char × List Char) :=
  (codes.afterMark? text).map fun behind => ([], behind)

/-- Delete every mark. -/
def erase (codes : MarkCodes) (text : List Char) : List Char :=
  Text.replaceAll (fun _ => codes.mark) text

variable (codes : MarkCodes)

theorem erase_append_of_notMem
    {text : List Char}
    (plain : '\x1b' ∉ text)
    (rest : List Char) : codes.erase (text ++ rest) = text ++ codes.erase rest := by
  apply Text.replaceAll_append_of_missed
  intro character present rest
  have other : character ≠ '\x1b' := ne_of_mem_of_not_mem present plain
  simp [mark, afterMark?, Text.afterExact?, other]

/-- A mark is deleted. -/
theorem erase_mark_append
    {numbers : List Char}
    (digits : numbers ⊆ "0123456789;".toList)
    (rest : List Char) :
    codes.erase (('\x1b' :: '[' :: numbers ++ ['m']) ++ rest) = codes.erase rest := by
  have admitted : ∀ character ∈ numbers, codes.admits character = true :=
    fun character present => codes.admits_of_mem character (digits present)
  have found : codes.afterMark? (('\x1b' :: '[' :: numbers ++ ['m']) ++ rest) = some rest := by
    have opened : Text.afterExact? ['\x1b', '['] (('\x1b' :: '[' :: numbers ++ ['m']) ++ rest) =
        some (numbers ++ 'm' :: rest) :=
      Text.afterExact?_eq_some_iff.mpr (by simp)
    rw [afterMark?, opened, Option.bind_some, List.dropWhile_append_of_pos admitted,
      List.dropWhile_cons_of_neg (by simp [codes.not_admits_end]),
      Text.afterExact?_eq_some_iff]
    rfl
  have gone : codes.mark (('\x1b' :: '[' :: numbers ++ ['m']) ++ rest) = some ([], rest) := by
    rw [mark, found]
    rfl
  exact Text.replaceAll_append (List.cons_ne_nil _ _) gone

/-- The marks of a tone are deleted. -/
theorem erase_paint_append
    (tone : Tone)
    {text : List Char}
    (plain : '\x1b' ∉ text)
    (rest : List Char) : codes.erase (tone.paint text ++ rest) = text ++ codes.erase rest := by
  have digits : tone.codes.toList ⊆ "0123456789;".toList := by
    cases tone <;> decide
  -- A text without an escape switches no tone off, so the tone is switched on once.
  have inside : Text.replaceExact Tone.reset (Tone.reset ++ tone.mark) text = text := by
    have kept : Text.replaceExact Tone.reset (Tone.reset ++ tone.mark) (text ++ []) = text ++ [] :=
      Text.replaceExact_append_of_notMem plain []
    rwa [List.append_nil] at kept
  have reset : ['0'] ⊆ "0123456789;".toList := by decide
  rw [Tone.paint, inside, List.append_assoc, List.append_assoc, Tone.mark,
    codes.erase_mark_append digits, codes.erase_append_of_notMem plain]
  exact congrArg (text ++ ·) (codes.erase_mark_append reset rest)

end MarkCodes

/-! ## Lines -/

/-- The text holds no escape. -/
def IsPlain (text : String) : Prop :=
  '\x1b' ∉ text.toList

instance (text : String) : Decidable (IsPlain text) :=
  inferInstanceAs (Decidable ('\x1b' ∉ text.toList))

@[simp] theorem isPlain_append
    {first second : String} : IsPlain (first ++ second) ↔ IsPlain first ∧ IsPlain second := by
  simp [IsPlain]

@[simp] theorem isPlain_toString (number : Nat) : IsPlain (toString number) := by
  intro present
  rw [Nat.toString_eq_repr, Nat.toList_repr] at present
  have digit : '\x1b'.isDigit = true :=
    Nat.isDigit_of_mem_toDigits (by decide) (by decide) present
  cases digit

/-- Plain texts are plain with plain texts between them. -/
theorem isPlain_intercalate
    {separator : String}
    (between : IsPlain separator)
    {texts : List String}
    (plain : ∀ text ∈ texts, IsPlain text) : IsPlain (separator.intercalate texts) := by
  induction texts with
  | nil =>
      rw [String.intercalate_nil]
      decide
  | cons text others inductionHypothesis =>
      rw [List.forall_mem_cons] at plain
      by_cases alone : others = []
      · rw [alone, String.intercalate_singleton]
        exact plain.1
      · rw [String.intercalate_cons_of_ne_nil alone, isPlain_append, isPlain_append]
        exact ⟨⟨plain.1, between⟩, inductionHypothesis plain.2⟩

/-- Deleting marks takes the colours off a span. -/
theorem MarkCodes.erase_span_append
    (codes : MarkCodes)
    {span : Span}
    (plain : IsPlain span.text)
    (rest : List Char) :
    codes.erase (span.render true ++ rest) = span.render false ++ codes.erase rest := by
  cases isToned : span.tone with
  | none =>
      simp only [Span.render, isToned]
      exact codes.erase_append_of_notMem plain rest
  | some tone =>
      simp only [Span.render, isToned]
      exact codes.erase_paint_append tone plain rest

/-- Deleting marks takes the colours off a line, whatever comes behind it. -/
def StyledLine.Fades
    (codes : MarkCodes)
    (line : StyledLine) : Prop :=
  ∀ rest, codes.erase (line.render true ++ rest) = line.render false ++ codes.erase rest

namespace StyledLine

variable {codes : MarkCodes}

/-- A line of plain spans fades. -/
theorem fades_of_plain
    {line : StyledLine}
    (plain : ∀ span ∈ line, IsPlain span.text) : line.Fades codes := by
  intro rest
  rw [StyledLine.render, StyledLine.render]
  induction line with
  | nil => exact codes.erase_append_of_notMem (by decide) rest
  | cons span others inductionHypothesis =>
      rw [List.forall_mem_cons] at plain
      simp only [List.append_assoc] at inductionHypothesis
      simp only [List.flatMap_cons, List.append_assoc]
      rw [codes.erase_span_append plain.1, inductionHypothesis plain.2]

theorem fades_toned
    {tone : Tone}
    {text : String}
    (plain : IsPlain text) : StyledLine.Fades codes [Span.toned tone text] :=
  fades_of_plain (List.forall_mem_singleton.mpr plain)

theorem fades_bare
    {text : String}
    (plain : IsPlain text) : StyledLine.Fades codes [Span.bare text] :=
  fades_of_plain (List.forall_mem_singleton.mpr plain)

theorem fades_nil : StyledLine.Fades codes [] :=
  fades_of_plain (List.forall_mem_nil _)

/-- Deleting marks takes the colours off lines that fade. -/
theorem erase_flatMap_render
    {lines : List StyledLine}
    (fade : ∀ line ∈ lines, line.Fades codes) :
    codes.erase (lines.flatMap (StyledLine.render true)) =
      lines.flatMap (StyledLine.render false) := by
  induction lines with
  | nil => rfl
  | cons line others inductionHypothesis =>
      rw [List.forall_mem_cons] at fade
      rw [List.flatMap_cons, List.flatMap_cons, fade.1, inductionHypothesis fade.2]

end StyledLine

/-! ## Reports -/

namespace Report

variable
  {codes : MarkCodes}
  {report : Report}

/-- The strings of a report. -/
def strings (report : Report) : List String :=
  (report.links.flatMap fun link =>
      [link.endpoint.httpMethod, link.endpoint.urlPath, link.endpoint.entryClass,
        link.endpoint.entryMethod, link.endpoint.packageName, link.table]) ++
    (report.dropped.flatMap fun dropped => [dropped.mapping, dropped.reason]) ++
    report.batchJobs.flatMap fun job => [job.className, job.jobName, job.packageName]

theorem fades_headingLines
    {title : String}
    (plain : IsPlain title) : ∀ line ∈ headingLines title, line.Fades codes := by
  simp only [headingLines, List.forall_mem_cons]
  exact ⟨StyledLine.fades_toned plain, StyledLine.fades_nil, List.forall_mem_nil _⟩

/-- The line of a link fades, whatever its code is: an escape alone is no mark. -/
theorem fades_linkLine
    {link : Link}
    (plain : IsPlain link.table) : (linkLine link).Fades codes := by
  have behind : '\x1b' ∉ (" " ++ link.table).toList ++ ['\n'] := by
    simpa [IsPlain] using plain
  by_cases escape : link.code = '\x1b'
  · -- The escape has no tone, and behind it stands a blank.
    intro rest
    have written (colored : Bool) : StyledLine.render colored (linkLine link) =
        "  ".toList ++ '\x1b' :: ((" " ++ link.table).toList ++ ['\n']) := by
      simp [StyledLine.render, linkLine, Span.render, Span.bare, toneOf?, escape]
    have missed (text : List Char) :
        codes.mark ('\x1b' :: ((" " ++ link.table).toList ++ ['\n'] ++ text)) = none := by
      simp [MarkCodes.mark, MarkCodes.afterMark?, Text.afterExact?]
    rw [written, written, List.append_assoc, codes.erase_append_of_notMem (by decide),
      List.cons_append, MarkCodes.erase, Text.replaceAll_cons (missed rest), ← MarkCodes.erase,
      codes.erase_append_of_notMem behind]
    simp only [List.append_assoc, List.cons_append]
  · apply StyledLine.fades_of_plain
    simp only [linkLine, List.forall_mem_cons]
    refine ⟨by decide, ?_, ?_, by simp⟩
    · simpa [IsPlain] using Ne.symm escape
    · simpa [Span.bare] using ⟨by decide, plain⟩

/-- The lines of an endpoint fade. -/
theorem fades_endpointLines
    (plain : ∀ text ∈ report.strings, IsPlain text)
    {endpoint : Endpoint}
    (listed : endpoint ∈ report.endpoints) :
    ∀ line ∈ report.endpointLines endpoint, line.Fades codes := by
  have inLinks (link : Link) (present : link ∈ report.links) {text : String}
      (own : text ∈ [link.endpoint.httpMethod, link.endpoint.urlPath, link.endpoint.entryClass,
        link.endpoint.entryMethod, link.endpoint.packageName, link.table]) : IsPlain text :=
    plain text (List.mem_append_left _ (List.mem_append_left _
      (List.mem_flatMap.mpr ⟨link, present, own⟩)))
  obtain ⟨first, isLink, rfl⟩ := List.mem_map.mp (List.mem_eraseDups.mp listed)
  have header : IsPlain first.endpoint.display := by
    simp only [Endpoint.display, Endpoint.entryId, MethodId.ofParts, isPlain_append]
    refine ⟨⟨⟨⟨⟨?_, by decide⟩, ?_⟩, by decide⟩, ⟨?_, by decide⟩, ?_⟩, by decide⟩
    all_goals exact inLinks first isLink (by simp)
  simp only [endpointLines, List.cons_append, List.forall_mem_cons, List.forall_mem_append,
    List.forall_mem_map]
  refine ⟨StyledLine.fades_toned header, ?_, StyledLine.fades_nil, List.forall_mem_nil _⟩
  intro link present
  exact fades_linkLine (inLinks link (List.mem_of_mem_filter present) (by simp))

/-- The lines of the links fade. -/
theorem fades_linkLines
    (plain : ∀ text ∈ report.strings, IsPlain text) :
    ∀ line ∈ report.linkLines, line.Fades codes := by
  have note : ∀ line ∈ (if report.links.isEmpty then
      [[Span.toned .yellow "No CRUD links produced"], []] else []), StyledLine.Fades codes line := by
    split
    · simp only [List.forall_mem_cons]
      exact ⟨StyledLine.fades_toned (by decide), StyledLine.fades_nil, List.forall_mem_nil _⟩
    · exact List.forall_mem_nil _
  simp only [linkLines, List.forall_mem_append, List.forall_mem_flatMap]
  exact ⟨⟨fades_headingLines (by decide), note⟩, fun endpoint listed =>
    fades_endpointLines plain listed⟩

/-- The lines of the batch jobs fade. -/
theorem fades_jobLines
    (plain : ∀ text ∈ report.strings, IsPlain text) :
    ∀ line ∈ report.jobLines, line.Fades codes := by
  rw [jobLines]
  split
  · exact List.forall_mem_nil _
  · simp only [List.forall_mem_append, List.forall_mem_map, List.forall_mem_singleton]
    refine ⟨⟨fades_headingLines (by decide), ?_⟩, StyledLine.fades_nil⟩
    intro job listed
    have own {text : String} (isText : text ∈ [job.className, job.jobName, job.packageName]) :
        IsPlain text :=
      plain text (List.mem_append_right _ (List.mem_flatMap.mpr ⟨job, listed, isText⟩))
    apply StyledLine.fades_bare
    simp only [isPlain_append]
    exact ⟨⟨⟨⟨by decide, own (by simp)⟩, by decide⟩, own (by simp)⟩, by decide⟩

theorem fades_summaryLine
    (statistics : Statistics) : (summaryLine statistics).Fades codes :=
  StyledLine.fades_bare (by simp only [isPlain_append, isPlain_toString, and_true]; decide)

/-- The line of the tiers fades. -/
theorem fades_tierLines
    (hits : List (Tier × Nat)) : ∀ line ∈ tierLines hits, line.Fades codes := by
  rw [tierLines]
  split
  · exact List.forall_mem_nil _
  · rw [List.forall_mem_singleton]
    apply StyledLine.fades_bare
    simp only [isPlain_append]
    refine ⟨by decide, isPlain_intercalate (by decide) ?_⟩
    rw [List.forall_mem_map]
    intro hit _
    simp only [isPlain_append, isPlain_toString, and_true]
    exact ⟨by cases hit.1 <;> decide, by decide⟩

/-- The lines of all that was counted fade. -/
theorem fades_detailLines
    (plain : ∀ text ∈ report.strings, IsPlain text) :
    ∀ line ∈ report.detailLines, line.Fades codes := by
  simp only [detailLines, List.forall_mem_append, List.forall_mem_cons, List.forall_mem_map]
  refine ⟨⟨⟨?_, ?_, ?_, List.forall_mem_nil _⟩, fades_tierLines _⟩, ?_⟩
  · exact StyledLine.fades_bare (by simp only [isPlain_append, isPlain_toString, and_true]; decide)
  · exact StyledLine.fades_bare (by simp only [isPlain_append, isPlain_toString, and_true]; decide)
  · exact StyledLine.fades_bare (by simp only [isPlain_append, isPlain_toString, and_true]; decide)
  · intro dropped listed
    have own {text : String} (isText : text ∈ [dropped.mapping, dropped.reason]) : IsPlain text :=
      plain text (List.mem_append_left _ (List.mem_append_right _
        (List.mem_flatMap.mpr ⟨dropped, listed, isText⟩)))
    apply StyledLine.fades_toned
    simp only [isPlain_append]
    exact ⟨⟨⟨by decide, own (by simp)⟩, by decide⟩, own (by simp)⟩

/-- Every line of a report fades. -/
theorem fades_lines
    (plain : ∀ text ∈ report.strings, IsPlain text)
    (verbose : Bool) : ∀ line ∈ report.lines verbose, line.Fades codes := by
  simp only [lines, List.forall_mem_append, List.forall_mem_singleton]
  refine ⟨⟨⟨fades_linkLines plain, fades_jobLines plain⟩, fades_summaryLine _⟩, ?_⟩
  split
  · exact fades_detailLines plain
  · exact List.forall_mem_nil _

/-- Deleting the marks from a report with colours gives the report without them, where no string of
the report holds an escape.  The colours are there: the report starts with a mark. -/
theorem erase_render_colored
    (codes : MarkCodes)
    (report : Report)
    (verbose : Bool)
    (plain : ∀ text ∈ report.strings, IsPlain text) :
    codes.erase (report.render { format := .text, colored := true, verbose := verbose }).toList =
        (report.render { format := .text, colored := false, verbose := verbose }).toList ∧
      Tone.bold.mark <+:
        (report.render { format := .text, colored := true, verbose := verbose }).toList := by
  have text (colored : Bool) :
      (report.render { format := .text, colored := colored, verbose := verbose }).toList =
        (report.lines verbose).flatMap (StyledLine.render colored) :=
    String.toList_ofList
  rw [text, text]
  exact ⟨StyledLine.erase_flatMap_render (fades_lines plain verbose), _, rfl⟩

/-- Brackets, codes and line ends in the strings of a report are not taken for marks. -/
theorem erase_render_of_bracketNames :
    let report : Report :=
      { links :=
          [{ endpoint := ⟨"GET", "/[1m", "Users", "list[0m", ""⟩, table := "t\n[31m", code := 'S' },
            { endpoint := ⟨"GET", "/[1m", "Users", "list[0m", ""⟩, table := "u", code := '\x1b' }]
        statistics := ⟨1, 0, 0, 1, 2, 2, 1, 1, 0, 2, 1, [(.exact, 1)]⟩
        dropped := [{ mapping := "Orders#[m", reason := "Bad request" }]
        batchJobs := [{ className := "[", jobName := "nightly", packageName := "m" }] }
    (∀ text ∈ report.strings, IsPlain text) ∧
      MarkCodes.anything.erase
          (report.render { format := .text, colored := true, verbose := true }).toList =
        (report.render { format := .text, colored := false, verbose := true }).toList := by
  intro report
  have plain : ∀ text ∈ report.strings, IsPlain text := by
    decide
  exact ⟨plain, (erase_render_colored .anything report true plain).1⟩

end Report
end TableReach
