import TableReach.Proofs.Classification.KeywordCaptures

/-!
# Tables found by keywords

Keyword search reports the names behind `FROM`, `INSERT INTO` and `UPDATE`.  Each clause is searched
on its own, so a name behind one clause may lie in what another one has taken; a deletion is still
never missed.  The `FROM` of a `DELETE FROM` stands behind a blank and a word that is no `FROM`, so
nothing that is captured before it runs into it.
-/

namespace TableReach
namespace Keyword

open Text

section Places

variable
  {keywords : List String}
  {clause : Clause}
  {before : Option Char}
  {text words written name rest : List Char}
  {names : List (List Char)}

/-- The character before what stands behind a name is the last one that is written for the name. -/
theorem Stands.getLast?_eq
    (stands : Stands keywords before words written name rest) :
    (words ++ written).getLast?.or before = written.getLast? := by
  obtain ⟨letters, last, rfl⟩ :=
    (List.eq_nil_or_concat' written).resolve_left stands.named.written_ne_nil
  rw [getLast?_append_or, List.getLast?_concat, Option.some_or]

/-- A captured name stands behind its keywords somewhere in the text. -/
theorem Captures.exists_of_mem
    (captures : Captures keywords before text names)
    (present : name ∈ names) :
    ∃ start words written rest, text = start ++ (words ++ written ++ rest) ∧
      Stands keywords (start.getLast?.or before) words written name rest := by
  induction captures with
  | done => cases present
  | @pass before character others names missed captures inductionHypothesis =>
      obtain ⟨start, words, written, rest, rfl, stands⟩ := inductionHypothesis present
      refine ⟨[character] ++ start, words, written, rest, rfl, ?_⟩
      rw [getLast?_append_or]
      exact stands
  | @capture before words written first others names stands captures inductionHypothesis =>
      rcases List.mem_cons.mp present with rfl | later
      · exact ⟨[], words, written, others, rfl, stands⟩
      · obtain ⟨start, nextWords, nextWritten, rest, rfl, nextStands⟩ := inductionHypothesis later
        refine ⟨words ++ written ++ start, nextWords, nextWritten, rest, by simp, ?_⟩
        rw [getLast?_append_or, stands.getLast?_eq]
        exact nextStands

/-- There is one way in which a clause stands at a place. -/
theorem Stands.unique
    {otherWords otherWritten otherName otherRest : List Char}
    (stands : Stands clause.words before words written name rest)
    (others : Stands clause.words before otherWords otherWritten otherName otherRest)
    (same : words ++ written ++ rest = otherWords ++ otherWritten ++ otherRest) :
    name = otherName := by
  have found := stands.recognize_eq
  rw [same, others.recognize_eq] at found
  obtain ⟨rfl, -⟩ := Prod.mk.inj (Option.some_inj.mp found)
  exact String.ofList_inj.mp (stands.named.bareName_eq.symm.trans others.named.bareName_eq)

/-- A clause that nothing captured before it runs into is captured. -/
theorem Captures.mem_of_stands
    {start : List Char}
    (captures : Captures clause.words before text names)
    (split : text = start ++ (words ++ written ++ rest))
    (stands : Stands clause.words (start.getLast?.or before) words written name rest)
    (untouched : ∀ earlier between, start = earlier ++ between → between ≠ [] →
      ∀ before otherWords otherWritten otherName behind,
        Stands clause.words before otherWords otherWritten otherName behind →
        between ++ (words ++ written ++ rest) = otherWords ++ otherWritten ++ behind →
        words ++ written ++ rest <:+ behind) : name ∈ names := by
  induction captures generalizing start with
  | done =>
      have something := stands.named.written_ne_nil
      simp [something] at split
  | @pass before character others names missed captures inductionHypothesis =>
      cases start with
      | nil => exact absurd stands (missed words written name rest split)
      | cons first start =>
          obtain ⟨rfl, rfl⟩ := List.cons.inj split
          refine inductionHypothesis rfl ?_ fun earlier between whole =>
            untouched (character :: earlier) between (by rw [whole]; rfl)
          rw [← List.singleton_append, getLast?_append_or] at stands
          exact stands
  | @capture before firstWords firstWritten firstName others names firstStands captures
      inductionHypothesis =>
      by_cases here : start = []
      · subst here
        rw [firstStands.unique stands split]
        exact List.mem_cons_self
      · obtain ⟨between, rfl⟩ :=
          untouched [] start rfl here before _ _ _ _ firstStands split.symm
        rw [← List.append_assoc] at split
        obtain rfl := List.append_cancel_right split
        rw [getLast?_append_or, firstStands.getLast?_eq] at stands
        refine List.mem_cons_of_mem _ (inductionHypothesis rfl stands fun earlier later equal =>
          untouched (firstWords ++ firstWritten ++ earlier) later ?_)
        rw [equal, List.append_assoc, List.append_assoc, List.append_assoc]

end Places

/-- Where two texts are equal up to the blanks behind them, so are their last characters that are
not blank. -/
theorem eq_of_append_blanks
    {first second gap otherGap : List Char}
    {last otherLast : Char}
    (blank : ∀ character ∈ gap, isBlank character = true)
    (otherBlank : ∀ character ∈ otherGap, isBlank character = true)
    (letter : isBlank last = false)
    (otherLetter : isBlank otherLast = false)
    (same : first ++ [last] ++ gap = second ++ [otherLast] ++ otherGap) : last = otherLast := by
  have trimmed (text gap : List Char) (last : Char) (letter : isBlank last = false)
      (blank : ∀ character ∈ gap, isBlank character = true) :
      ((text ++ [last] ++ gap).reverse.dropWhile isBlank).head? = some last := by
    rw [List.reverse_append, List.dropWhile_append_of_pos fun character present =>
      blank character (List.mem_reverse.mp present), List.reverse_append, List.reverse_singleton,
      List.singleton_append, List.dropWhile_cons_of_neg (by simp [letter])]
    rfl
  have heads := trimmed first gap last letter blank
  rw [same, trimmed second otherGap otherLast otherLetter otherBlank] at heads
  exact (Option.some_inj.mp heads).symm

/-- A word that ends in a letter is written with a last character that is this letter when case is
ignored. -/
theorem exists_concat_of_map_fold
    {letters : List Char}
    (word : List Char)
    (letter : Char)
    (notBlank : isBlank letter = false)
    (same : letters.map fold = word ++ [letter]) :
    ∃ others last, letters = others ++ [last] ∧ fold last = letter ∧ isBlank last = false := by
  obtain ⟨others, final, rfl, -, isFinal⟩ := List.map_eq_append_iff.mp same
  obtain ⟨last, rfl, isLetter⟩ := List.map_eq_singleton_iff.mp isFinal
  refine ⟨others, last, rfl, isLetter, ?_⟩
  rw [← Bool.not_eq_true]
  intro blank
  have folded := isBlank_fold blank
  rw [isLetter, notBlank] at folded
  cases folded

theorem Spelled.exists_of_singleton
    {word : String}
    {text : List Char}
    (spelled : Spelled [word] text) :
    ∃ letters gap, text = letters ++ gap ∧ letters.map fold = word.toList ∧
      ∀ character ∈ gap, isBlank character = true := by
  cases spelled with
  | @cons _ _ letters gap others same something blank spelled =>
      cases spelled
      exact ⟨letters, gap, by simp, same, blank⟩

section Deletions

variable
  {clause : Clause}
  {before : Option Char}
  {words written name rest : List Char}

/-- A clause of one word that starts before a blank ends before the blank or goes on directly behind
its word there. -/
theorem Stands.suffix_of_blank
    {word : String}
    {others behind : List Char}
    {blank first : Char}
    (stands : Stands clause.words before words written name rest)
    (single : clause.words = [word])
    (isBlankHere : isBlank blank = true)
    (letter : isBlank first = false)
    (split : others ++ [blank] ++ first :: behind = words ++ written ++ rest)
    (different : others ++ [blank] ≠ words) : first :: behind <:+ rest := by
  have capitals := (clause.isUpper_of_mem_words (single ▸ List.mem_singleton_self word)).2
  obtain ⟨letters, gap, rfl, same, blanks⟩ := (single ▸ stands.spelled).exists_of_singleton
  have notInWord : blank ∉ letters := by
    intro inWord
    rw [isBlank_of_map_fold capitals same inWord] at isBlankHere
    cases isBlankHere
  have notInName : blank ∉ written := by
    intro inName
    rw [stands.named.isBlank_eq_false inName] at isBlankHere
    cases isBlankHere
  rw [List.append_assoc (letters ++ gap)] at split
  rcases List.append_eq_append_iff.mp split with ⟨more, isWords, isBehind⟩ | ⟨more, isOthers, isName⟩
  · -- The words of the clause go on behind the blank, where nothing but blanks could follow.
    exfalso
    have something : more ≠ [] := by
      rintro rfl
      rw [List.append_nil] at isWords
      exact different isWords.symm
    obtain ⟨next, more, rfl⟩ := List.exists_cons_of_ne_nil something
    obtain ⟨rfl, -⟩ := List.cons.inj isBehind
    rcases List.append_eq_append_iff.mp isWords with ⟨left, -, isGap⟩ | ⟨left, isLetters, -⟩
    · have inGap : first ∈ gap := isGap ▸ List.mem_append_right _ List.mem_cons_self
      rw [blanks first inGap] at letter
      cases letter
    · exact notInWord (isLetters ▸ by simp)
  · -- The blank stands behind the words of the clause, so the name ends before it.
    rcases List.append_eq_append_iff.mp isName with ⟨left, rfl, isRest⟩ | ⟨left, isWritten, -⟩
    · exact ⟨left, isRest.symm⟩
    · exfalso
      rcases List.eq_nil_or_concat' more with rfl | ⟨front, last, rfl⟩
      · rw [List.append_nil] at isOthers
        exact different isOthers
      · rw [← List.append_assoc] at isOthers
        obtain ⟨-, isLast⟩ := List.append_inj' isOthers rfl
        obtain rfl := List.singleton_inj.mp isLast
        exact notInName (isWritten ▸ by simp)

/-- The words of a deletion are its verb, blanks, and the word of a source. -/
theorem Stands.exists_source
    (stands : Stands ["DELETE", "FROM"] before words written name rest) :
    ∃ letters gap last source, words = letters ++ (gap ++ [last]) ++ source ∧
      letters.map fold = "DELETE".toList ∧
      (∀ character ∈ gap ++ [last], isBlank character = true) ∧
      Stands Clause.fromTable.words (some last) source written name rest := by
  obtain ⟨-, spelled, named⟩ := stands
  cases spelled with
  | @cons _ _ letters blanks source same something blank spelled =>
      obtain ⟨gap, last, rfl⟩ := (List.eq_nil_or_concat' blanks).resolve_left something
      have starts := startsWord_of_isBlank (blank last (by simp))
      exact ⟨letters, gap, last, source, rfl, same, blank, starts, spelled, named⟩

/-- A clause starts with no blank. -/
theorem Stands.exists_first
    (stands : Stands clause.words before words written name rest) :
    ∃ first others, words ++ written ++ rest = first :: others ∧ isBlank first = false := by
  cases whole : words ++ written ++ rest with
  | nil =>
      have something := stands.named.written_ne_nil
      simp [something] at whole
  | cons first others =>
      refine ⟨first, others, rfl, ?_⟩
      rw [← Bool.not_eq_true]
      intro blank
      have found := stands.recognize_eq
      rw [whole, clause.ignoresSpacing.blank before first others blank] at found
      cases found

/-- Every table that rows are deleted from is among the captured sources. -/
theorem subset_of_captures
    {text : List Char}
    {deleted sources : List (List Char)}
    (capturesDeleted : Captures ["DELETE", "FROM"] none text deleted)
    (capturesSources : Captures Clause.fromTable.words none text sources) :
    deleted ⊆ sources := by
  intro name present
  obtain ⟨start, words, written, rest, rfl, stands⟩ := capturesDeleted.exists_of_mem present
  obtain ⟨letters, gap, last, source, rfl, same, blank, standsSource⟩ := stands.exists_source
  have split : start ++ (letters ++ (gap ++ [last]) ++ source ++ written ++ rest) =
      start ++ (letters ++ (gap ++ [last])) ++ (source ++ written ++ rest) := by simp
  have isBlankLast : isBlank last = true := blank last (by simp)
  obtain ⟨first, others, isFirst, letter⟩ := standsSource.exists_first
  refine capturesSources.mem_of_stands split (by simpa using standsSource) ?_
  intro earlier between whole something before otherWords otherWritten otherName behind other
    otherSplit
  obtain ⟨front, final, rfl⟩ := (List.eq_nil_or_concat' between).resolve_left something
  have lastSame : start ++ letters ++ gap ++ [last] = earlier ++ front ++ [final] := by
    simpa using whole
  obtain ⟨-, isFinal⟩ := List.append_inj' lastSame rfl
  obtain rfl := List.singleton_inj.mp isFinal
  rw [isFirst] at otherSplit ⊢
  refine other.suffix_of_blank rfl isBlankLast letter otherSplit ?_
  -- The last letter before the blanks would be that of both verbs.
  intro isWords
  obtain ⟨otherLetters, otherGap, rfl, otherSame, otherBlank⟩ := other.spelled.exists_of_singleton
  obtain ⟨verb, ending, rfl, isEnding, endingLetter⟩ :=
    exists_concat_of_map_fold "DELET".toList 'E' rfl same
  obtain ⟨otherVerb, otherEnding, rfl, isOtherEnding, otherLetter⟩ :=
    exists_concat_of_map_fold "FRO".toList 'M' rfl otherSame
  rw [isWords] at whole
  have ends : start ++ verb ++ [ending] ++ (gap ++ [last]) =
      earlier ++ otherVerb ++ [otherEnding] ++ otherGap := by
    simpa using whole
  rw [← eq_of_append_blanks blank otherBlank endingLetter otherLetter ends, isEnding]
    at isOtherEnding
  cases isOtherEnding

end Deletions

theorem Captures.of_mem
    {keywords : List String}
    {before : Option Char}
    {text name : List Char}
    {names : List (List Char)}
    (captures : Captures keywords before text names)
    (present : name ∈ names) :
    name ≠ [] ∧ ∀ character ∈ name, Sql.isQuote character = false := by
  obtain ⟨start, words, written, rest, -, stands⟩ := captures.exists_of_mem present
  cases stands.named with
  | intro opens closes something letters ends unquoted =>
      exact ⟨something, fun character inName => isQuote_of_isWord (letters character inName)⟩

/-- The tables that clauses name are the names that their words capture, each once. -/
theorem tables_eq
    {text : List Char}
    {captured : Clause → List (List Char)}
    (captures : ∀ clause : Clause, Captures clause.words none text (captured clause))
    (clauses : List Clause) :
    tables clauses text = ((clauses.flatMap captured).map String.ofList).eraseDups := by
  have names : (clauses.flatMap fun clause => clause.names text) =
      (clauses.flatMap captured).map String.ofList := by
    rw [List.map_flatMap]
    exact List.flatMap_congr fun clause _ => (captures_iff.mp (captures clause)).symm
  have kept : ((clauses.flatMap captured).map String.ofList).filter (fun name => !name.isEmpty) =
      (clauses.flatMap captured).map String.ofList := by
    rw [List.filter_eq_self]
    intro name present
    obtain ⟨letters, inCaptured, rfl⟩ := List.mem_map.mp present
    obtain ⟨clause, -, inClause⟩ := List.mem_flatMap.mp inCaptured
    have something := ((captures clause).of_mem inClause).1
    simpa [String.isEmpty_iff] using something
  rw [tables, names, kept]

/-- What the keywords that name tables capture in a text. -/
structure Captured (text : List Char) where
  /-- The names behind `FROM`. -/
  sources : List (List Char)
  /-- The names behind `INSERT INTO`. -/
  inserted : List (List Char)
  /-- The names behind `UPDATE`. -/
  updated : List (List Char)
  /-- The names behind `DELETE FROM`. -/
  deleted : List (List Char)
  /-- Nothing else is captured behind `FROM`. -/
  sources_iff : ∀ names, Captures ["FROM"] none text names ↔ names = sources
  /-- Nothing else is captured behind `INSERT INTO`. -/
  inserted_iff : ∀ names, Captures ["INSERT", "INTO"] none text names ↔ names = inserted
  /-- Nothing else is captured behind `UPDATE`. -/
  updated_iff : ∀ names, Captures ["UPDATE"] none text names ↔ names = updated
  /-- Nothing else is captured behind `DELETE FROM`. -/
  deleted_iff : ∀ names, Captures ["DELETE", "FROM"] none text names ↔ names = deleted

theorem captures_iff_eq
    {clause : Clause}
    {text : List Char}
    {captured : List (List Char)}
    (captures : Captures clause.words none text captured)
    (names : List (List Char)) : Captures clause.words none text names ↔ names = captured := by
  rw [captures_iff, ← captures_iff.mp captures]
  exact (List.map_injective_iff.mpr fun _ _ => String.ofList_inj.mp).eq_iff

namespace Captured

variable {text : List Char}

/-- What each clause captures, gathered for the four that keyword search looks at. -/
def ofClauses
    {captured : Clause → List (List Char)}
    (captures : ∀ clause : Clause, Captures clause.words none text (captured clause)) :
    Captured text where
  sources := captured .fromTable
  inserted := captured .insertInto
  updated := captured .updateTable
  deleted := captured .deleteFrom
  sources_iff := captures_iff_eq (captures .fromTable)
  inserted_iff := captures_iff_eq (captures .insertInto)
  updated_iff := captures_iff_eq (captures .updateTable)
  deleted_iff := captures_iff_eq (captures .deleteFrom)

theorem deleted_subset
    (captured : Captured text) : captured.deleted ⊆ captured.sources :=
  subset_of_captures ((captured.deleted_iff _).mpr rfl) ((captured.sources_iff _).mpr rfl)

/-- No reported name is empty, and none holds a quote. -/
theorem of_mem_reported
    (captured : Captured text)
    {name : List Char}
    (present : name ∈ captured.sources ++ captured.inserted ++ captured.updated) :
    name ≠ [] ∧ ∀ character ∈ name, Sql.isQuote character = false := by
  rw [List.mem_append, List.mem_append] at present
  rcases present with (inSources | inInserted) | inUpdated
  · exact ((captured.sources_iff _).mpr rfl).of_mem inSources
  · exact ((captured.inserted_iff _).mpr rfl).of_mem inInserted
  · exact ((captured.updated_iff _).mpr rfl).of_mem inUpdated

end Captured

section Report

variable
  {text : List Char}
  {captured : Clause → List (List Char)}
  (captures : ∀ clause : Clause, Captures clause.words none text (captured clause))

include captures

/-- The written tables are the names that the clause of the operation captures. -/
theorem targets_classify
    {clause : Clause}
    (isClause : targetClause? (classify text).operation = some clause) :
    (classify text).targets = ((captured clause).map String.ofList).eraseDups := by
  change tables (targetClause? (classify text).operation).toList text = _
  simp [isClause, tables_eq captures]

/-- A written table is captured behind one of the reported clauses. -/
theorem mem_reported_of_mem_targets
    {name : String}
    (present : name ∈ (classify text).targets) :
    name ∈ tables [.fromTable, .insertInto, .updateTable] text := by
  have deleted := (Captured.ofClauses captures).deleted_subset
  cases isClause : targetClause? (classify text).operation with
  | none =>
      change name ∈ tables (targetClause? (classify text).operation).toList text at present
      simp [isClause, tables] at present
  | some clause =>
      rw [targets_classify captures isClause, List.mem_eraseDups, List.mem_map] at present
      obtain ⟨letters, inClause, rfl⟩ := present
      rw [tables_eq captures, List.mem_eraseDups]
      apply List.mem_map_of_mem
      cases operation : (classify text).operation with
      | insert =>
          obtain rfl : Clause.insertInto = clause := by
            simpa [operation, targetClause?] using isClause
          simp [inClause]
      | update =>
          obtain rfl : Clause.updateTable = clause := by
            simpa [operation, targetClause?] using isClause
          simp [inClause]
      | delete =>
          obtain rfl : Clause.deleteFrom = clause := by
            simpa [operation, targetClause?] using isClause
          have inSources : letters ∈ captured .fromTable := deleted inClause
          simp [inSources]
      | select => simp [operation, targetClause?] at isClause
      | unknown => simp [operation, targetClause?] at isClause

/-- The reported tables are the names behind `FROM`, `INSERT INTO` and `UPDATE`. -/
theorem mem_tables_classify_iff
    (name : String) :
    name ∈ (classify text).tables ↔
      ∃ letters ∈ captured .fromTable ++ captured .insertInto ++ captured .updateTable,
        String.ofList letters = name := by
  have named : name ∈ (classify text).tables ↔
      name ∈ tables [.fromTable, .insertInto, .updateTable] text := by
    rw [Classification.tables, List.mem_eraseDups, List.mem_append]
    constructor
    · rintro (inTargets | inReferences)
      · exact mem_reported_of_mem_targets captures inTargets
      · exact (List.mem_filter.mp inReferences).1
    · intro inNamed
      by_cases inTargets : name ∈ (classify text).targets
      · exact Or.inl inTargets
      · refine Or.inr (List.mem_filter.mpr ⟨inNamed, ?_⟩)
        change (!(classify text).targets.contains name) = true
        simpa using inTargets
  rw [named, tables_eq captures, List.mem_eraseDups, List.mem_map]
  simp

end Report

/-- Keyword search knows every operation that it reports. -/
theorem operation_classify_ne_unknown
    (text : List Char) : (classify text).operation ≠ .unknown := by
  simp only [classify, operation]
  split
  · simp
  · split
    · simp
    · split
      · simp
      · simp

/-- What keyword search reports about a text is what keywords capture from left to right and without
overlap, each on their own.  The tables are exactly the names behind `FROM`, `INSERT INTO` and
`UPDATE`; every name behind `DELETE FROM` is among those behind `FROM`; no table has an empty name
or a quote in its name.  The written tables of an insertion are the names behind `INSERT INTO`, those
of an update the names behind `UPDATE` and those of a deletion the names behind `DELETE FROM`, each
once in the order in which they are captured first; a query writes none, and the operation is always
one of these. -/
theorem classify_reports_captures
    (text : List Char) :
    ∃ captured : Captured text,
      (∀ name, name ∈ (classify text).tables ↔
        ∃ letters ∈ captured.sources ++ captured.inserted ++ captured.updated,
          String.ofList letters = name) ∧
      captured.deleted ⊆ captured.sources ∧
      (∀ name ∈ (classify text).tables,
        name ≠ "" ∧ ∀ character ∈ name.toList, Sql.isQuote character = false) ∧
      ((classify text).operation = .insert →
        (classify text).targets = (captured.inserted.map String.ofList).eraseDups) ∧
      ((classify text).operation = .update →
        (classify text).targets = (captured.updated.map String.ofList).eraseDups) ∧
      ((classify text).operation = .delete →
        (classify text).targets = (captured.deleted.map String.ofList).eraseDups) ∧
      ((classify text).operation = .select → (classify text).targets = []) ∧
      (classify text).operation ≠ .unknown := by
  choose captured captures using fun clause : Clause => exists_captures clause.words none text
  have reported := mem_tables_classify_iff captures
  refine ⟨Captured.ofClauses captures, reported, Captured.deleted_subset _, ?_, ?_, ?_, ?_, ?_,
    operation_classify_ne_unknown text⟩
  · intro name present
    obtain ⟨letters, inReported, rfl⟩ := (reported name).mp present
    obtain ⟨something, unquoted⟩ := (Captured.ofClauses captures).of_mem_reported inReported
    rw [String.toList_ofList]
    refine ⟨fun nothing => something ?_, unquoted⟩
    simpa using congrArg String.toList nothing
  · intro isInsert
    exact targets_classify captures (by rw [isInsert, targetClause?])
  · intro isUpdate
    exact targets_classify captures (by rw [isUpdate, targetClause?])
  · intro isDelete
    exact targets_classify captures (by rw [isDelete, targetClause?])
  · intro isSelect
    change tables (targetClause? (classify text).operation).toList text = []
    simp [isSelect, targetClause?, tables]

/-- In a deletion that reads `users` beside it, an insertion from `events` and an update that reads
`stale`, the written table is what the keywords of the operation capture. -/
theorem captured_tables_written :
    (classify "?? DELETE FROM sessions WHERE user_id IN (SELECT id FROM users)".toList =
        { operation := .delete, targets := ["sessions"], references := ["users"]
          stage := .fallback } ∧
      ∃ captured : Captured
          "?? DELETE FROM sessions WHERE user_id IN (SELECT id FROM users)".toList,
        (captured.deleted.map String.ofList).eraseDups = ["sessions"]) ∧
    (classify "oops INSERT INTO audit SELECT * FROM events".toList =
        { operation := .insert, targets := ["audit"], references := ["events"]
          stage := .fallback } ∧
      ∃ captured : Captured "oops INSERT INTO audit SELECT * FROM events".toList,
        (captured.inserted.map String.ofList).eraseDups = ["audit"]) ∧
    (classify "MALFORMED UPDATE orders SET a = (SELECT id FROM stale)".toList =
        { operation := .update, targets := ["orders"], references := ["stale"]
          stage := .fallback } ∧
      ∃ captured : Captured "MALFORMED UPDATE orders SET a = (SELECT id FROM stale)".toList,
        (captured.updated.map String.ofList).eraseDups = ["orders"]) := by
  have deletion : classify
      "?? DELETE FROM sessions WHERE user_id IN (SELECT id FROM users)".toList =
        { operation := .delete, targets := ["sessions"], references := ["users"]
          stage := .fallback } := by
    decide +kernel
  have insertion : classify "oops INSERT INTO audit SELECT * FROM events".toList =
      { operation := .insert, targets := ["audit"], references := ["events"]
        stage := .fallback } := by
    decide +kernel
  have update : classify "MALFORMED UPDATE orders SET a = (SELECT id FROM stale)".toList =
      { operation := .update, targets := ["orders"], references := ["stale"]
        stage := .fallback } := by
    decide +kernel
  refine ⟨⟨deletion, ?_⟩, ⟨insertion, ?_⟩, ⟨update, ?_⟩⟩
  · obtain ⟨captured, -, -, -, -, -, written, -⟩ := classify_reports_captures
      "?? DELETE FROM sessions WHERE user_id IN (SELECT id FROM users)".toList
    rw [deletion] at written
    exact ⟨captured, (written rfl).symm⟩
  · obtain ⟨captured, -, -, -, written, -⟩ := classify_reports_captures
      "oops INSERT INTO audit SELECT * FROM events".toList
    rw [insertion] at written
    exact ⟨captured, (written rfl).symm⟩
  · obtain ⟨captured, -, -, -, -, written, -⟩ := classify_reports_captures
      "MALFORMED UPDATE orders SET a = (SELECT id FROM stale)".toList
    rw [update] at written
    exact ⟨captured, (written rfl).symm⟩

end Keyword
end TableReach
