import TableReach.Proofs.Classification.KeywordTables

/-!
# The operation found by keywords

Keyword search takes the operation of a text from a verb with a space behind it, and the tables from
clauses with any blanks between their words.  Both ignore case in the same way, so they disagree
only where another blank than a space stands behind the verb: there a write is reported as a read.
-/

namespace TableReach
namespace Text

theorem upper_cons
    (character : Char)
    (text : List Char) : upper (character :: text) = upperLetters character ++ upper text :=
  List.flatMap_cons

theorem upper_append
    (first second : List Char) : upper (first ++ second) = upper first ++ upper second :=
  List.flatMap_append

/-- A letter that is a capital when case is ignored, and no K, is that capital in upper case. -/
theorem upperLetters_of_fold
    {character : Char}
    (capital : (fold character).isUpper = true)
    (notKelvin : fold character ≠ 'K') : upperLetters character = [fold character] := by
  unfold fold at capital notKelvin ⊢
  split
  · next long =>
      rw [beq_iff_eq.mp long]
      rfl
  · next notLong =>
      rw [if_neg notLong] at capital notKelvin
      split
      · next kelvin =>
          rw [if_pos kelvin] at notKelvin
          exact absurd rfl notKelvin
      · next other =>
          rw [if_neg other] at capital
          exact of_isUpper_toUpper (fun character => upperLetters character = [character.toUpper])
            (by decide) capital

/-- A word in capitals without a K is the same in upper case, however it is written. -/
theorem upper_of_map_fold
    {letters word : List Char}
    (capitals : ∀ letter ∈ word, letter.isUpper = true ∧ letter ≠ 'K')
    (same : letters.map fold = word) : upper letters = word := by
  subst same
  induction letters with
  | nil => rfl
  | cons character letters inductionHypothesis =>
      rw [List.map_cons, List.forall_mem_cons] at capitals
      rw [upper_cons, upperLetters_of_fold capitals.1.1 capitals.1.2,
        inductionHypothesis capitals.2, List.map_cons, List.singleton_append]

/-- Only a space is a space in upper case. -/
theorem eq_space_of_mem_upperLetters
    {character : Char}
    (present : ' ' ∈ upperLetters character) : character = ' ' := by
  unfold upperLetters at present
  split at present
  case h_18 =>
    rw [List.mem_singleton] at present
    by_cases lower : character.val ≥ 'a'.val ∧ character.val ≤ 'z'.val
    · have ascii : character.toNat < 128 :=
        Nat.lt_of_le_of_lt (UInt32.le_iff_toNat_le.mp lower.2) (by decide)
      have checked : ∀ code < 128, ' ' = (Char.ofNat code).toUpper → Char.ofNat code = ' ' := by
        decide
      have found := checked character.toNat ascii
      rw [Char.ofNat_toNat] at found
      exact found present
    · have same : character.toUpper = character := dif_neg lower
      rw [present, same]
  all_goals exact absurd present (by decide)

/-- A space in upper case is a space of the text. -/
theorem exists_of_upper_eq
    {text first second : List Char}
    (split : upper text = first ++ ' ' :: second) :
    ∃ start rest, text = start ++ ' ' :: rest ∧ upper start = first := by
  induction text generalizing first with
  | nil => simp [upper] at split
  | cons character text inductionHypothesis =>
      have later (before : List Char) (found : upper text = before ++ ' ' :: second)
          (isFirst : first = upperLetters character ++ before) :
          ∃ start rest, character :: text = start ++ ' ' :: rest ∧ upper start = first := by
        obtain ⟨start, rest, rfl, rfl⟩ := inductionHypothesis found
        exact ⟨character :: start, rest, rfl, isFirst.symm⟩
      rw [upper_cons] at split
      rcases List.append_eq_append_iff.mp split with ⟨before, isFirst, found⟩ |
        ⟨behind, isLetters, found⟩
      · exact later before found isFirst
      · cases behind with
        | nil =>
            rw [List.append_nil] at isLetters
            exact later [] found.symm (by rw [isLetters, List.append_nil])
        | cons next behind =>
            obtain ⟨rfl, -⟩ := List.cons.inj found
            have inside : ' ' ∈ upperLetters character := by simp [isLetters]
            obtain rfl := eq_space_of_mem_upperLetters inside
            have nothing : first = [] := by
              cases first with
              | nil => rfl
              | cons _ first => simp [upperLetters] at isLetters
            exact ⟨[], text, rfl, nothing.symm⟩

end Text

namespace Keyword

open Text

/-- A keyword in upper case stands right before a space of the text, in any case. -/
def StandsBeforeSpace (keyword text : List Char) : Prop :=
  ∃ start rest, text = start ++ ' ' :: rest ∧ keyword <:+ upper start

/-- A keyword and a space are found in the text in upper case where the keyword stands right before a
space. -/
theorem contains_upper_iff
    (keyword text : List Char) :
    contains (upper text) (keyword ++ [' ']) = true ↔ StandsBeforeSpace keyword text := by
  rw [contains_iff]
  constructor
  · rintro ⟨before, behind, whole⟩
    have split : upper text = before ++ keyword ++ ' ' :: behind := by
      rw [← whole]
      simp
    obtain ⟨start, rest, rfl, isStart⟩ := exists_of_upper_eq split
    exact ⟨start, rest, rfl, before, isStart.symm⟩
  · rintro ⟨start, rest, rfl, before, isStart⟩
    refine ⟨before, upper rest, ?_⟩
    rw [upper_append, ← isStart, upper_cons]
    simp [upperLetters]

/-- The clauses that name written tables. -/
def writingClauses : List Clause :=
  [.insertInto, .updateTable, .deleteFrom]

/-- The first word of a clause. -/
def Clause.verb (clause : Clause) : List Char :=
  (clause.words.headD "").toList

theorem operation_eq
    (text : List Char) :
    operation text =
      if contains (upper text) (Clause.insertInto.verb ++ [' ']) then .insert
      else if contains (upper text) (Clause.updateTable.verb ++ [' ']) then .update
      else if contains (upper text) (Clause.deleteFrom.verb ++ [' ']) then .delete
      else .select :=
  rfl

/-- A text is taken for an insertion exactly if the verb of one stands right before a space. -/
theorem operation_eq_insert_iff
    (text : List Char) :
    operation text = .insert ↔ StandsBeforeSpace Clause.insertInto.verb text := by
  rw [operation_eq, ← contains_upper_iff]
  constructor
  · intro isInsert
    by_contra absent
    rw [if_neg absent] at isInsert
    split at isInsert
    · cases isInsert
    · split at isInsert <;> cases isInsert
  · exact fun present => if_pos present

/-- A text is taken for a read exactly if the verb of no write stands right before a space. -/
theorem operation_eq_select_iff
    (text : List Char) :
    operation text = .select ↔
      ∀ clause ∈ writingClauses, ¬ StandsBeforeSpace clause.verb text := by
  simp only [writingClauses, List.forall_mem_cons, operation_eq, ← contains_upper_iff]
  constructor
  · intro isSelect
    split at isSelect
    · cases isSelect
    · next noInsert =>
        split at isSelect
        · cases isSelect
        · next noUpdate =>
            split at isSelect
            · cases isSelect
            · next noDelete => exact ⟨noInsert, noUpdate, noDelete, by simp⟩
  · rintro ⟨noInsert, noUpdate, noDelete, -⟩
    rw [if_neg noInsert, if_neg noUpdate, if_neg noDelete]

/-- The verb of a clause that writes is the same in upper case, however it is written. -/
theorem upper_of_verb
    {clause : Clause}
    {letters : List Char}
    (writes : clause ∈ writingClauses)
    (same : letters.map fold = clause.verb) : upper letters = clause.verb := by
  apply upper_of_map_fold _ same
  have capitals : (writingClauses.all fun clause =>
      clause.verb.all fun letter => letter.isUpper && letter != 'K') = true := by decide
  intro letter present
  have found := List.all_eq_true.mp (List.all_eq_true.mp capitals clause writes) letter present
  rw [Bool.and_eq_true, bne_iff_ne] at found
  exact found

/-- The verb of a clause stands in front of a blank. -/
theorem Stands.exists_verb
    {clause : Clause}
    {before : Option Char}
    {words written name rest : List Char}
    (stands : Stands clause.words before words written name rest) :
    ∃ letters blank others, words = letters ++ blank :: others ∧
      letters.map fold = clause.verb ∧ isBlank blank = true := by
  obtain ⟨first, more, isWords⟩ : ∃ first more, clause.words = first :: more := by
    cases clause <;> exact ⟨_, _, rfl⟩
  have spelled := stands.spelled
  rw [isWords] at spelled
  cases spelled with
  | @cons _ _ letters gap others same something blank spelled =>
      obtain ⟨next, gap, rfl⟩ := List.exists_cons_of_ne_nil something
      refine ⟨letters, next, gap ++ others, by simp, ?_, blank next List.mem_cons_self⟩
      rw [same, Clause.verb, isWords, List.headD_cons]

/-- A clause that finds a table stands somewhere in the text. -/
theorem Clause.exists_stands_of_names
    {clause : Clause}
    {text : List Char}
    (found : clause.names text ≠ []) :
    ∃ start words written name rest, text = start ++ (words ++ written ++ rest) ∧
      Stands clause.words start.getLast? words written name rest := by
  obtain ⟨captured, captures⟩ := exists_captures clause.words none text
  rw [← captures_iff.mp captures, ne_eq, List.map_eq_nil_iff] at found
  obtain ⟨name, others, rfl⟩ := List.exists_cons_of_ne_nil found
  obtain ⟨start, words, written, rest, split, stands⟩ :=
    captures.exists_of_mem List.mem_cons_self
  rw [Option.or_none] at stands
  exact ⟨start, words, written, name, rest, split, stands⟩

/-- A clause stands somewhere in the text with a space right behind its verb. -/
def Clause.StandsSpaced (clause : Clause) (text : List Char) : Prop :=
  ∃ start letters others written name rest,
    text = start ++ (letters ++ ' ' :: others ++ written ++ rest) ∧
      letters.map fold = clause.verb ∧
      Stands clause.words start.getLast? (letters ++ ' ' :: others) written name rest

theorem Clause.StandsSpaced.standsBeforeSpace
    {clause : Clause}
    {text : List Char}
    (spaced : clause.StandsSpaced text)
    (writes : clause ∈ writingClauses) : StandsBeforeSpace clause.verb text := by
  obtain ⟨start, letters, others, written, name, rest, rfl, same, -⟩ := spaced
  refine ⟨start ++ letters, others ++ written ++ rest, by simp, upper start, ?_⟩
  rw [upper_append, upper_of_verb writes same]

/-- Where all blanks are spaces, a clause that finds a table has a space behind its verb. -/
theorem Clause.standsSpaced_of_names
    {clause : Clause}
    {text : List Char}
    (found : clause.names text ≠ [])
    (spaces : ∀ character ∈ text, isBlank character = true → character = ' ') :
    clause.StandsSpaced text := by
  obtain ⟨start, words, written, name, rest, rfl, stands⟩ := exists_stands_of_names found
  obtain ⟨letters, blank, others, rfl, same, isBlankHere⟩ := stands.exists_verb
  obtain rfl := spaces blank (by simp) isBlankHere
  exact ⟨start, letters, others, written, name, rest, rfl, same, stands⟩

/-- A write that a clause finds in the text is reported as a write, and an insertion as one. -/
def ReportsWrites (text : List Char) : Prop :=
  ((∃ clause ∈ writingClauses, clause.names text ≠ []) → (classify text).operation ≠ .select) ∧
    (Clause.insertInto.names text ≠ [] → (classify text).operation = .insert)

/-- A write that is found in a text is reported as a write exactly if the verb of some write stands
right before a space of the text, and an insertion as one exactly if its own verb does.  So a clause
that stands in the text with a space right behind its verb is always reported, and nothing is
misreported in a text whose blanks are all spaces. -/
theorem reportsWrites_iff
    (text : List Char) :
    (ReportsWrites text ↔
      ((∃ clause ∈ writingClauses, clause.names text ≠ []) →
        ∃ clause ∈ writingClauses, StandsBeforeSpace clause.verb text) ∧
      (Clause.insertInto.names text ≠ [] → StandsBeforeSpace Clause.insertInto.verb text)) ∧
    (∀ clause ∈ writingClauses, clause.StandsSpaced text →
      (classify text).operation ≠ .select ∧
        (clause = .insertInto → (classify text).operation = .insert)) ∧
    ((∀ character ∈ text, isBlank character = true → character = ' ') → ReportsWrites text) := by
  have written : (classify text).operation ≠ .select ↔
      ∃ clause ∈ writingClauses, StandsBeforeSpace clause.verb text := by
    change operation text ≠ .select ↔ _
    rw [ne_eq, operation_eq_select_iff]
    simp
  have inserted : (classify text).operation = .insert ↔
      StandsBeforeSpace Clause.insertInto.verb text :=
    operation_eq_insert_iff text
  refine ⟨?_, ?_, ?_⟩
  · rw [ReportsWrites, written, inserted]
  · intro clause writes spaced
    have found := spaced.standsBeforeSpace writes
    refine ⟨written.mpr ⟨clause, writes, found⟩, ?_⟩
    rintro rfl
    exact inserted.mpr found
  · intro spaces
    refine ⟨?_, ?_⟩
    · rintro ⟨clause, writes, found⟩
      have spaced := Clause.standsSpaced_of_names found spaces
      exact written.mpr ⟨clause, writes, spaced.standsBeforeSpace writes⟩
    · intro found
      have spaced := Clause.standsSpaced_of_names found spaces
      exact inserted.mpr (spaced.standsBeforeSpace (by decide))

/-- A line break behind the verb turns an insertion into a read. -/
theorem insertion_on_two_lines_reported_as_read :
    Clause.insertInto.names "BAD INSERT\nINTO logs VALUES (1)".toList = ["logs"] ∧
      classify "BAD INSERT\nINTO logs VALUES (1)".toList =
        { operation := .select, targets := [], references := ["logs"], stage := .fallback } ∧
      ¬ ReportsWrites "BAD INSERT\nINTO logs VALUES (1)".toList := by
  have found : Clause.insertInto.names "BAD INSERT\nINTO logs VALUES (1)".toList = ["logs"] := by
    decide +kernel
  have classified : classify "BAD INSERT\nINTO logs VALUES (1)".toList =
      { operation := .select, targets := [], references := ["logs"], stage := .fallback } := by
    decide +kernel
  refine ⟨found, classified, fun reports => ?_⟩
  have inserted := reports.2 (by rw [found]; exact List.cons_ne_nil _ _)
  rw [classified] at inserted
  cases inserted

end Keyword
end TableReach
