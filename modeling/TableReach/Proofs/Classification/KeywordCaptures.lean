import TableReach.Proofs.Classification.KeywordSpacing
import TableReach.Proofs.Sql.TableName
import TableReach.Proofs.Text.Letter
import Mathlib.Data.List.TakeWhile

/-!
# Names that clauses capture

What keyword search looks for, said without the search: keywords in any case with blanks behind
each, and a name with a quote allowed on each side.  A text is read from left to right: where the
keywords stand the name is captured and reading goes on behind it, everywhere else one character is
passed over.  A clause finds exactly the names that its words capture so.
-/

namespace TableReach
namespace Keyword

open Text

/-- Words as they may be written: each in any case, with blanks behind it. -/
inductive Spelled : List String → List Char → Prop
  | nil : Spelled [] []
  | cons
      {word : String}
      {words : List String}
      {letters gap others : List Char}
      (same : letters.map fold = word.toList)
      (something : gap ≠ [])
      (blank : ∀ character ∈ gap, isBlank character = true)
      (spelled : Spelled words others) :
      Spelled (word :: words) (letters ++ gap ++ others)

/-- One quote, or nothing. -/
def IsQuoteMark (mark : List Char) : Prop :=
  mark = [] ∨ ∃ quote, mark = [quote] ∧ isNameQuote quote = true

/-- A name as it is written in front of a text: word characters with a quote allowed on each side,
as far as they go. -/
inductive Named (name : List Char) : List Char → List Char → Prop
  | intro
      {opening closing rest : List Char}
      (opens : IsQuoteMark opening)
      (closes : IsQuoteMark closing)
      (something : name ≠ [])
      (letters : ∀ character ∈ name, isWord character = true)
      (ends : endsWord (closing ++ rest) = true)
      (unquoted : closing = [] → ∀ character ∈ rest.head?, isNameQuote character = false) :
      Named name (opening ++ name ++ closing) rest

/-- Keywords stand between a character and a text, with a name behind them as it is written. -/
structure Stands
    (keywords : List String)
    (before : Option Char)
    (words written name rest : List Char) : Prop where
  /-- No word runs on into the first keyword. -/
  starts : startsWord before = true
  /-- The keywords come first. -/
  spelled : Spelled keywords words
  /-- The name comes behind them. -/
  named : Named name written rest

/-- The names that keywords capture in a text behind a character, from left to right and without
overlap. -/
inductive Captures (keywords : List String) : Option Char → List Char → List (List Char) → Prop
  | done
      {before : Option Char} :
      Captures keywords before [] []
  | pass
      {before : Option Char}
      {character : Char}
      {rest : List Char}
      {names : List (List Char)}
      (missed : ∀ words written name behind, character :: rest = words ++ written ++ behind →
        ¬ Stands keywords before words written name behind)
      (captures : Captures keywords (some character) rest names) :
      Captures keywords before (character :: rest) names
  | capture
      {before : Option Char}
      {words written name rest : List Char}
      {names : List (List Char)}
      (stands : Stands keywords before words written name rest)
      (captures : Captures keywords written.getLast? rest names) :
      Captures keywords before (words ++ written ++ rest) (name :: names)

section Words

/-- The words of a clause are written in capitals. -/
theorem Clause.isUpper_of_mem_words
    (clause : Clause)
    {word : String}
    (present : word ∈ clause.words) :
    word.toList ≠ [] ∧ ∀ letter ∈ word.toList, letter.isUpper = true := by
  have capitals : clause.words.all
      (fun word => !word.toList.isEmpty && word.toList.all Char.isUpper) = true := by
    cases clause <;> decide
  have found := List.all_eq_true.mp capitals word present
  rw [Bool.and_eq_true] at found
  refine ⟨by simpa using found.1, List.all_eq_true.mp found.2⟩

/-- No letter of a word in capitals is blank, however it is written. -/
theorem isBlank_of_map_fold
    {word letters : List Char}
    {character : Char}
    (capitals : ∀ letter ∈ word, letter.isUpper = true)
    (same : letters.map fold = word)
    (present : character ∈ letters) : isBlank character = false := by
  have folded : fold character ∈ word := same ▸ List.mem_map_of_mem present
  have inWord := isWord_of_fold (capitals _ folded)
  rw [← Bool.not_eq_true]
  intro blank
  rw [isWord_of_isBlank blank] at inWord
  cases inWord

variable
  {words : List String}
  {text rest : List Char}

/-- Words in capitals start with no blank. -/
theorem Spelled.startsBlank_append
    {word : String}
    (capitals : word.toList ≠ [] ∧ ∀ letter ∈ word.toList, letter.isUpper = true)
    (spelled : Spelled (word :: words) text)
    (rest : List Char) : startsBlank (text ++ rest) = false := by
  cases spelled with
  | @cons _ _ letters gap others same something blank spelled =>
      have more : letters ≠ [] := by
        rintro rfl
        exact capitals.1 same.symm
      obtain ⟨first, letters, rfl⟩ := List.exists_cons_of_ne_nil more
      exact isBlank_of_map_fold capitals.2 same List.mem_cons_self

/-- What stands behind words in capitals is what is found behind them. -/
theorem afterWords?_eq_some_iff
    (capitals : ∀ word ∈ words, word.toList ≠ [] ∧ ∀ letter ∈ word.toList, letter.isUpper = true)
    (notBlank : startsBlank rest = false) :
    afterWords? words text = some rest ↔ ∃ start, text = start ++ rest ∧ Spelled words start := by
  induction words generalizing text with
  | nil =>
      rw [afterWords?, Option.some_inj]
      constructor
      · rintro rfl
        exact ⟨[], rfl, .nil⟩
      · rintro ⟨start, rfl, spelled⟩
        cases spelled
        rfl
  | cons word words inductionHypothesis =>
      rw [List.forall_mem_cons] at capitals
      rw [afterWords?_cons, Option.bind_assoc, Option.bind_eq_some_iff]
      constructor
      · rintro ⟨behind, foundWord, found⟩
        obtain ⟨left, foundBlanks, foundOthers⟩ := Option.bind_eq_some_iff.mp found
        obtain ⟨letters, rfl, same⟩ := afterKeyword?_eq_some_iff.mp foundWord
        obtain ⟨others, rfl, spelled⟩ := (inductionHypothesis capitals.2).mp foundOthers
        obtain ⟨first, behind, blank, rfl, trimmed⟩ := exists_of_afterBlanks? foundBlanks
        refine ⟨letters ++ first :: behind.takeWhile isBlank ++ others, ?_, .cons same
          (List.cons_ne_nil _ _) ?_ spelled⟩
        · rw [List.append_assoc, List.append_assoc, trimmed, List.cons_append, trimLeft,
            List.takeWhile_append_dropWhile]
        · rw [List.forall_mem_cons]
          exact ⟨blank, fun _ present => List.mem_takeWhile_imp present⟩
      · rintro ⟨start, rfl, spelled⟩
        cases spelled with
        | @cons _ _ letters gap others same something blank spelled =>
            refine ⟨gap ++ others ++ rest, ?_, ?_⟩
            · exact afterKeyword?_eq_some_iff.mpr ⟨letters, by simp, same⟩
            · have foundOthers :=
                (inductionHypothesis capitals.2).mpr ⟨others, rfl, spelled⟩
              have letter : startsBlank (others ++ rest) = false := by
                cases words with
                | nil =>
                    cases spelled
                    exact notBlank
                | cons next words =>
                    exact spelled.startsBlank_append (capitals.2 _ List.mem_cons_self) rest
              obtain ⟨first, gap, rfl⟩ := List.exists_cons_of_ne_nil something
              rw [List.forall_mem_cons] at blank
              have trimmed : trimLeft (gap ++ (others ++ rest)) = others ++ rest := by
                rw [trimLeft, List.dropWhile_append_of_pos blank.2]
                exact trimLeft_of_startsBlank letter
              rw [Option.bind_eq_some_iff]
              refine ⟨others ++ rest, ?_, foundOthers⟩
              rw [List.append_assoc, List.cons_append, afterBlanks?, if_pos blank.1, trimmed]

end Words

section Names

variable
  {name written rest text : List Char}

theorem isQuote_of_isNameQuote
    {character : Char}
    (quote : isNameQuote character = true) : Sql.isQuote character = true := by
  simp only [isNameQuote, Bool.or_eq_true] at quote
  simp only [Sql.isQuote, Bool.or_eq_true]
  exact Or.inl (Or.inl quote)

/-- No quote stands in a word. -/
theorem isQuote_of_isWord
    {character : Char}
    (letter : isWord character = true) : Sql.isQuote character = false := by
  rw [← Bool.not_eq_true]
  intro quote
  simp only [Sql.isQuote, Bool.or_eq_true, beq_iff_eq] at quote
  rcases quote with (((rfl | rfl) | rfl) | rfl) | rfl
  · exact absurd letter (by decide)
  · exact absurd letter (by decide)
  · exact absurd letter (by decide)
  · exact absurd letter (by decide)
  · exact absurd letter (by decide)

/-- What quotes a mark consists of. -/
theorem IsQuoteMark.isNameQuote_of_mem
    {mark : List Char}
    {character : Char}
    (isMark : IsQuoteMark mark)
    (present : character ∈ mark) : isNameQuote character = true := by
  rcases isMark with rfl | ⟨quote, rfl, isQuote⟩
  · cases present
  · rw [List.mem_singleton] at present
    rw [present]
    exact isQuote

/-- A quote is skipped where there is one, and nothing else is. -/
theorem exists_of_skipQuote
    (text : List Char) :
    ∃ mark, IsQuoteMark mark ∧ text = mark ++ skipQuote text ∧
      (mark = [] → ∀ character ∈ (skipQuote text).head?, isNameQuote character = false) := by
  cases text with
  | nil =>
      refine ⟨[], Or.inl rfl, rfl, ?_⟩
      rintro - _ ⟨⟩
  | cons character rest =>
      rw [skipQuote]
      split
      · next quote =>
          refine ⟨[character], Or.inr ⟨character, rfl, quote⟩, rfl, ?_⟩
          rintro ⟨⟩
      · next letter =>
          refine ⟨[], Or.inl rfl, rfl, ?_⟩
          rintro - _ ⟨⟩
          simpa using letter

/-- A quote mark is skipped if no further quote would be skipped without it. -/
theorem skipQuote_append
    {mark : List Char}
    (isMark : IsQuoteMark mark)
    (unquoted : mark = [] → ∀ character ∈ rest.head?, isNameQuote character = false) :
    skipQuote (mark ++ rest) = rest := by
  rcases isMark with rfl | ⟨quote, rfl, isQuote⟩
  · cases rest with
    | nil => rfl
    | cons character rest =>
        rw [List.nil_append, skipQuote, unquoted rfl character rfl]
        rfl
  · rw [List.singleton_append, skipQuote, if_pos isQuote]

/-- A name is found exactly where one is written. -/
theorem name?_eq_some_iff :
    name? text = some (written, rest) ↔ text = written ++ rest ∧ ∃ name, Named name written rest := by
  constructor
  · intro found
    obtain ⟨opening, opens, whole, -⟩ := exists_of_skipQuote text
    obtain ⟨closing, closes, behind, unquoted⟩ :=
      exists_of_skipQuote ((skipQuote text).dropWhile isWord)
    obtain ⟨split, isName⟩ := name?_eq whole rfl behind (by rw [← behind])
    rw [isName, Option.map_eq_some_iff] at found
    obtain ⟨first, isFirst, equal⟩ := found
    obtain ⟨rfl, rfl⟩ := Prod.mk.inj equal
    refine ⟨split, _, .intro opens closes ?_ (fun _ present => List.mem_takeWhile_imp present) ?_
      unquoted⟩
    · exact List.ne_nil_of_mem (List.mem_of_head? isFirst)
    · rw [← behind]
      exact endsWord_dropWhile _
  · rintro ⟨rfl, name, isNamed⟩
    cases isNamed with
    | @intro opening closing _ opens closes something letters ends unquoted =>
        obtain ⟨first, others, rfl⟩ := List.exists_cons_of_ne_nil something
        have inside : skipQuote (opening ++ (first :: others ++ (closing ++ rest))) =
            first :: others ++ (closing ++ rest) := by
          apply skipQuote_append opens
          rintro - _ ⟨⟩
          rw [← Bool.not_eq_true]
          intro quote
          have noQuote := isQuote_of_isWord (letters first List.mem_cons_self)
          rw [isQuote_of_isNameQuote quote] at noQuote
          cases noQuote
        have run := takeWhile_append_of_endsWord letters ends
        have behind := dropWhile_append_of_endsWord letters ends
        have regrouped : opening ++ first :: others ++ closing ++ rest =
            opening ++ (first :: others ++ (closing ++ rest)) := by simp
        rw [regrouped]
        have opened : opening ++ (first :: others ++ (closing ++ rest)) =
            opening ++ skipQuote (opening ++ (first :: others ++ (closing ++ rest))) := by
          rw [inside]
        exact (name?_eq opened (by rw [inside, run]) (by rw [inside, behind])
          (skipQuote_append closes unquoted)).2

/-- No character of a name, quotes included, is blank. -/
theorem Named.isBlank_eq_false
    {character : Char}
    (named : Named name written rest)
    (present : character ∈ written) : isBlank character = false := by
  rw [← Bool.not_eq_true]
  intro blank
  have ofMark {mark : List Char} (isMark : IsQuoteMark mark) : character ∉ mark := by
    intro inMark
    have quote := isMark.isNameQuote_of_mem inMark
    rw [eq_false_of_isBlank isNameQuote (by decide) blank] at quote
    cases quote
  cases named with
  | intro opens closes something letters ends unquoted =>
      rw [List.mem_append, List.mem_append] at present
      rcases present with (inOpening | inName) | inClosing
      · exact ofMark opens inOpening
      · have letter := letters character inName
        rw [isWord_of_isBlank blank] at letter
        cases letter
      · exact ofMark closes inClosing

theorem Named.written_ne_nil (named : Named name written rest) : written ≠ [] := by
  cases named with
  | intro opens closes something letters ends unquoted => simp [something]

/-- The bare name of what is written is the name between its quotes. -/
theorem Named.bareName_eq
    (named : Named name written rest) :
    Sql.bareName (String.ofList written) = String.ofList name := by
  have noPeriod : ¬ (isNameQuote '.' = true ∨ isWord '.' = true) := by
    decide
  cases named with
  | @intro opening closing _ opens closes something letters ends unquoted =>
      have whole : Sql.afterLast '.' (opening ++ name ++ closing) = opening ++ name ++ closing := by
        apply Sql.afterLast_of_notMem
        simp only [List.mem_append]
        rintro ((inOpening | inName) | inClosing)
        · exact noPeriod (Or.inl (opens.isNameQuote_of_mem inOpening))
        · exact noPeriod (Or.inr (letters '.' inName))
        · exact noPeriod (Or.inl (closes.isNameQuote_of_mem inClosing))
      have dropped {mark : List Char} (isMark : IsQuoteMark mark) :
          mark.filter (fun character => !Sql.isQuote character) = [] := by
        rw [List.filter_eq_nil_iff]
        intro character present
        simp [isQuote_of_isNameQuote (isMark.isNameQuote_of_mem present)]
      have kept : name.filter (fun character => !Sql.isQuote character) = name := by
        rw [List.filter_eq_self]
        intro character present
        simp [isQuote_of_isWord (letters character present)]
      rw [Sql.bareName, String.toList_ofList, whole, List.filter_append, List.filter_append,
        dropped opens, dropped closes, kept, List.nil_append, List.append_nil]

end Names

section Clauses

variable
  {clause : Clause}
  {before : Option Char}
  {text words written name rest : List Char}
  {names : List (List Char)}

/-- A clause is recognized exactly where its words stand. -/
theorem Clause.recognize_eq_some_iff :
    clause.recognize before text = some (written, rest) ↔
      ∃ words name, text = words ++ written ++ rest ∧
        Stands clause.words before words written name rest := by
  have startsName {name : List Char} (named : Named name written rest) :
      startsBlank (written ++ rest) = false := by
    obtain ⟨first, others, rfl⟩ := List.exists_cons_of_ne_nil named.written_ne_nil
    exact named.isBlank_eq_false List.mem_cons_self
  by_cases starts : startsWord before = true
  · have opened : clause.recognize before text = (afterWords? clause.words text).bind name? := by
      rw [Clause.recognize, if_pos starts]
      rfl
    rw [opened, Option.bind_eq_some_iff]
    constructor
    · rintro ⟨behind, foundWords, foundName⟩
      obtain ⟨rfl, name, named⟩ := name?_eq_some_iff.mp foundName
      obtain ⟨words, rfl, spelled⟩ := (afterWords?_eq_some_iff
        (fun _ => clause.isUpper_of_mem_words) (startsName named)).mp foundWords
      exact ⟨words, name, (List.append_assoc _ _ _).symm, starts, spelled, named⟩
    · rintro ⟨words, name, rfl, -, spelled, named⟩
      refine ⟨written ++ rest, ?_, name?_eq_some_iff.mpr ⟨rfl, name, named⟩⟩
      rw [List.append_assoc]
      exact (afterWords?_eq_some_iff (fun _ => clause.isUpper_of_mem_words)
        (startsName named)).mpr ⟨words, rfl, spelled⟩
  · constructor
    · intro found
      rw [Clause.recognize, if_neg starts] at found
      cases found
    · rintro ⟨words, name, -, standing⟩
      exact absurd standing.starts starts

theorem Stands.recognize_eq
    (stands : Stands clause.words before words written name rest) :
    clause.recognize before (words ++ written ++ rest) = some (written, rest) :=
  Clause.recognize_eq_some_iff.mpr ⟨words, name, rfl, stands⟩

/-- The search goes on behind a clause, and finds its name first. -/
theorem Stands.piecesFrom_eq
    (stands : Stands clause.words before words written name rest) :
    piecesFrom clause.recognize before 0 (words ++ written ++ rest) =
      .found written :: piecesFrom clause.recognize written.getLast? 0 rest := by
  obtain ⟨start, last, rfl⟩ :=
    (List.eq_nil_or_concat' written).resolve_left stands.named.written_ne_nil
  have split : words ++ (start ++ [last]) ++ rest = words ++ start ++ last :: rest := by simp
  rw [piecesFrom_of_found split stands.recognize_eq, List.getLast?_concat]

/-- What is captured is what the search finds, without the quotes. -/
theorem Captures.eq_values
    (captures : Captures clause.words before text names) :
    names.map String.ofList =
      (Piece.values (piecesFrom clause.recognize before 0 text)).map fun written =>
        Sql.bareName (String.ofList written) := by
  induction captures with
  | done => rfl
  | @pass before character rest names missed captures inductionHypothesis =>
      have nothing : clause.recognize before (character :: rest) = none := by
        rw [Option.eq_none_iff_forall_ne_some]
        rintro ⟨written, behind⟩ found
        obtain ⟨words, name, split, stands⟩ := Clause.recognize_eq_some_iff.mp found
        exact missed words written name behind split stands
      rw [piecesFrom, nothing, inductionHypothesis]
      rfl
  | @capture before words written name rest names stands captures inductionHypothesis =>
      rw [stands.piecesFrom_eq, List.map_cons, inductionHypothesis, ← stands.named.bareName_eq]
      rfl

/-- In every text some names are captured. -/
theorem exists_captures
    (keywords : List String)
    (before : Option Char)
    (text : List Char) : ∃ names, Captures keywords before text names := by
  -- The induction is on the length of the text: behind a name reading goes on with what is left.
  induction size : text.length using Nat.strongRecOn generalizing before text with
  | _ size inductionHypothesis =>
      subst size
      by_cases standing : ∃ words written name rest, text = words ++ written ++ rest ∧
          Stands keywords before words written name rest
      · obtain ⟨words, written, name, rest, rfl, stands⟩ := standing
        have shorter : rest.length < (words ++ written ++ rest).length := by
          have something := List.length_pos_of_ne_nil stands.named.written_ne_nil
          simp only [List.length_append]
          omega
        obtain ⟨names, captures⟩ := inductionHypothesis _ shorter written.getLast? rest rfl
        exact ⟨name :: names, .capture stands captures⟩
      · cases text with
        | nil => exact ⟨[], .done⟩
        | cons character rest =>
            obtain ⟨names, captures⟩ :=
              inductionHypothesis _ (Nat.lt_succ_self rest.length) (some character) rest rfl
            refine ⟨names, .pass ?_ captures⟩
            intro words written name behind split stands
            exact standing ⟨words, written, name, behind, split, stands⟩

/-- The names of a clause in a text are those its words capture. -/
theorem captures_iff :
    Captures clause.words none text names ↔ names.map String.ofList = clause.names text := by
  constructor
  · exact Captures.eq_values
  · intro same
    obtain ⟨captured, captures⟩ := exists_captures clause.words none text
    have equal : names.map String.ofList = captured.map String.ofList :=
      same.trans captures.eq_values.symm
    rw [List.map_injective_iff.mpr (fun _ _ => String.ofList_inj.mp) equal]
    exact captures

end Clauses
end Keyword
end TableReach
