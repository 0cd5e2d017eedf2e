import TableReach.Sql.TableName
import Mathlib.Data.List.TakeWhile

/-!
# Laws of bare names

The bare name of a table is cut out of the name as it is written: what stands behind
the last period, without the characters that can quote a name.  Of a dotted name
only the last part matters.  It is given back as it is exactly if it holds neither a
period nor such a character; inside of its quotes they are taken for those of the
writing.
-/

namespace TableReach
namespace Sql

/-! ## Behind the last mark -/

section AfterLast

variable {mark : Char}

theorem afterLast_suffix (mark : Char) (text : List Char) : afterLast mark text <:+ text := by
  have front := List.takeWhile_prefix (l := text.reverse) (· != mark)
  rwa [← List.reverse_suffix, List.reverse_reverse] at front

theorem notMem_afterLast (mark : Char) (text : List Char) : mark ∉ afterLast mark text := by
  intro present
  rw [afterLast, List.mem_reverse] at present
  simpa using List.mem_takeWhile_imp present

/-- The last mark is searched for before a part without one. -/
theorem afterLast_append_of_notMem
    (before : List Char)
    {rest : List Char}
    (absent : mark ∉ rest) : afterLast mark (before ++ rest) = afterLast mark before ++ rest := by
  have others : ∀ character ∈ rest.reverse, (character != mark) = true := by
    intro character present
    simpa using ne_of_mem_of_not_mem (List.mem_reverse.mp present) absent
  rw [afterLast, afterLast, List.reverse_append, List.takeWhile_append_of_pos others,
    List.reverse_append, List.reverse_reverse]

theorem afterLast_of_notMem
    {text : List Char}
    (absent : mark ∉ text) : afterLast mark text = text :=
  afterLast_append_of_notMem [] absent

/-- What stands before a mark does not matter. -/
theorem afterLast_append (before rest : List Char) :
    afterLast mark (before ++ mark :: rest) = afterLast mark rest := by
  rw [afterLast, afterLast, List.reverse_append, List.reverse_cons, List.append_assoc,
    List.singleton_append, List.takeWhile_append]
  split
  · next whole =>
      rw [List.takeWhile_cons_of_neg (by simp), List.append_nil,
        (List.takeWhile_prefix _).eq_of_length whole]
  · rfl

/-- `part` is the longest end of a text that holds no mark. -/
structure IsLongestEnd
    (mark : Char)
    (text part : List Char) : Prop where
  /-- It is an end of the text. -/
  isSuffix : part <:+ text
  /-- It holds no mark. -/
  notMem : mark ∉ part
  /-- No end of the text without a mark is longer. -/
  longest : ∀ other, other <:+ text → mark ∉ other → other.length ≤ part.length

/-- What stands behind the last mark is the longest end without one, and there is no other. -/
theorem isLongestEnd_iff
    {text part : List Char} : IsLongestEnd mark text part ↔ part = afterLast mark text := by
  -- Every end without a mark is an end of what stands behind the last one.
  have within {other : List Char} (ends : other <:+ text) (absent : mark ∉ other) :
      other <:+ afterLast mark text := by
    obtain ⟨before, rfl⟩ := ends
    rw [afterLast_append_of_notMem before absent]
    exact List.suffix_append _ _
  constructor
  · intro isLongest
    apply (within isLongest.isSuffix isLongest.notMem).eq_of_length_le
    exact isLongest.longest _ (afterLast_suffix mark text) (notMem_afterLast mark text)
  · rintro rfl
    exact
      { isSuffix := afterLast_suffix mark text
        notMem := notMem_afterLast mark text
        longest := fun _ ends absent => (within ends absent).length_le }

/-- Characters other than the mark can be left out before or after the search for it. -/
theorem filter_afterLast
    {keeps : Char → Bool}
    (kept : keeps mark = true)
    (text : List Char) :
    (afterLast mark text).filter keeps = afterLast mark (text.filter keeps) := by
  have inFront (text : List Char) :
      (text.takeWhile (· != mark)).filter keeps = (text.filter keeps).takeWhile (· != mark) := by
    induction text with
    | nil => rfl
    | cons character rest inductionHypothesis =>
        by_cases same : character = mark
        · simp [same, kept]
        · by_cases keeping : keeps character = true
          · simp [same, keeping, inductionHypothesis]
          · simp [same, keeping, inductionHypothesis]
  rw [afterLast, afterLast, List.filter_reverse, inFront, List.filter_reverse]

end AfterLast

/-! ## Bare names -/

theorem not_isQuote_period : (!isQuote '.') = true := by
  decide

theorem of_mem_bareName
    {written : String}
    {character : Char}
    (present : character ∈ (bareName written).toList) :
    character ≠ '.' ∧ isQuote character = false := by
  rw [bareName, String.toList_ofList, List.mem_filter] at present
  refine ⟨ne_of_mem_of_not_mem present.1 (notMem_afterLast '.' _), ?_⟩
  simpa using present.2

/-- A text is its own bare name exactly if it holds no period and nothing that can quote a name. -/
theorem bareName_eq_self_iff
    {written : String} :
    bareName written = written ↔
      ∀ character ∈ written.toList, character ≠ '.' ∧ isQuote character = false := by
  constructor
  · intro same character present
    rw [← same] at present
    exact of_mem_bareName present
  · intro plain
    have noPeriod : '.' ∉ written.toList := fun present => (plain '.' present).1 rfl
    have noQuote : ∀ character ∈ written.toList, (!isQuote character) = true := by
      intro character present
      simpa using (plain character present).2
    rw [bareName, afterLast_of_notMem noPeriod, List.filter_eq_self.mpr noQuote,
      String.ofList_toList]

/-- The name behind the last period is read alone. -/
theorem bareName_append (before rest : String) :
    bareName (before ++ "." ++ rest) = bareName rest := by
  have written : (before ++ "." ++ rest).toList = before.toList ++ '.' :: rest.toList := by
    simp
  rw [bareName, written, afterLast_append, bareName]

/-- Of a dotted name only the last part matters. -/
theorem bareName_printed (front : ObjectName) (last : Ident) :
    bareName (ObjectName.printed (front ++ [last])) = bareName last.printed := by
  rw [ObjectName.printed, List.map_append, List.map_singleton]
  by_cases alone : front = []
  · rw [alone, List.map_nil, List.nil_append, String.intercalate_singleton]
  · rw [String.intercalate_append_of_ne_nil (by simpa using alone) (by simp),
      String.intercalate_singleton, bareName_append]

/-- Without what can quote a name, a part is written as its text, with or without quotes. -/
theorem filter_printed
    {ident : Ident}
    (quotes : ∀ quote ∈ ident.quote, isQuote quote = true) :
    ident.printed.toList.filter (fun character => !isQuote character) =
      ident.text.toList.filter (fun character => !isQuote character) := by
  unfold Ident.printed
  split
  · rfl
  · simp [isQuote]
  · next quote _ isQuoted =>
      have quoting : isQuote quote = true := quotes quote (by simp [isQuoted])
      have inside (text : List Char) :
          (text.flatMap fun character => if character == quote then [quote, quote]
            else [character]).filter (fun character => !isQuote character) =
              text.filter fun character => !isQuote character := by
        induction text with
        | nil => rfl
        | cons character rest inductionHypothesis =>
            rw [List.flatMap_cons, List.filter_append, inductionHypothesis, List.filter_cons]
            by_cases same : character = quote
            · simp [same, quoting]
            · by_cases other : isQuote character = true
              · simp [same, other]
              · simp [same, other]
      rw [String.toList_ofList, List.filter_append, List.filter_cons, inside]
      simp [quoting]

/-- The bare name of a part is that of its text, with or without quotes. -/
theorem bareName_printed_ident
    {ident : Ident}
    (quotes : ∀ quote ∈ ident.quote, isQuote quote = true) :
    bareName ident.printed = bareName ident.text := by
  rw [bareName, filter_afterLast not_isQuote_period, filter_printed quotes,
    ← filter_afterLast not_isQuote_period, bareName]

/-- The bare name of a dotted name is read from the text of its last part, however the parts are
quoted.  It is that text exactly if the text holds no period and nothing that can quote a name.  A
bare name is its own bare name. -/
theorem bareName_eq_last_iff
    (front : ObjectName)
    (last : Ident)
    (quotes : ∀ quote ∈ last.quote, isQuote quote = true) :
    bareName (ObjectName.printed (front ++ [last])) = bareName last.text ∧
      (bareName (ObjectName.printed (front ++ [last])) = last.text ↔
        ∀ character ∈ last.text.toList, character ≠ '.' ∧ isQuote character = false) ∧
      ∀ written : String, bareName (bareName written) = bareName written := by
  have cut : bareName (ObjectName.printed (front ++ [last])) = bareName last.text :=
    (bareName_printed front last).trans (bareName_printed_ident quotes)
  refine ⟨cut, by rw [cut, bareName_eq_self_iff], ?_⟩
  intro written
  exact bareName_eq_self_iff.mpr fun character present => of_mem_bareName present

/-- A blank in brackets stays, and a period in the quotes of an earlier part does not matter. -/
theorem bareName_of_bracketedPart :
    let database : Ident := { text := "my.db", quote := some '\x60' }
    let table : Ident := { text := "user table", quote := some '[' }
    (∀ quote ∈ table.quote, isQuote quote = true) ∧
      bareName (ObjectName.printed [database, table]) = "user table" := by
  intro database table
  have quotes : ∀ quote ∈ table.quote, isQuote quote = true := by
    rintro quote ⟨⟩
    decide
  have plain : "user table".toList.all (fun character =>
      character != '.' && !isQuote character) = true := by
    decide
  refine ⟨quotes, (bareName_eq_last_iff [database] table quotes).2.1.mpr ?_⟩
  intro character present
  simpa using List.all_eq_true.mp plain character present

/-- A period in quotes divides a name, and brackets in quotes are lost, so that another table is
read. -/
theorem quoted_period_divides_name :
    bareName (ObjectName.printed [{ text := "a.b", quote := some '"' }]) = "b" ∧
      bareName (ObjectName.printed [{ text := "a[1]", quote := some '"' }]) = "a1" := by
  decide

end Sql
end TableReach
