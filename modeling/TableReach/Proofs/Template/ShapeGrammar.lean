import TableReach.Proofs.Template.Prepared
import TableReach.Proofs.Text.Search
import Mathlib.Data.List.Basic

/-!
# The grammar of statement texts

The words of a statement start with a keyword that can open one, do not end in an open
clause and double no clause keyword.  A text on one line has the shape of a statement
exactly if its words are those of a statement, and nowhere does a word that ends in such
a keyword meet one that starts with it.
-/

namespace TableReach
namespace Template

open Text

/-- A text opens with a word exactly if a blank stands behind the word. -/
theorem opensWith_iff
    {text word : List Char} :
    opensWith text word = true ↔
      ∃ mark rest, isBlank mark = true ∧ text = word ++ mark :: rest := by
  rw [opensWith, Bool.and_eq_true, List.isPrefixOf_iff_prefix]
  constructor
  · rintro ⟨⟨behind, rfl⟩, ends⟩
    rw [List.drop_left] at ends
    cases behind with
    | nil => cases ends
    | cons mark rest => exact ⟨mark, rest, ends, rfl⟩
  · rintro ⟨mark, rest, blank, rfl⟩
    rw [List.drop_left]
    exact ⟨List.prefix_append _ _, blank⟩

/-- A text closes with a word exactly if a blank stands before the word. -/
theorem closesWith_iff
    {text word : List Char} :
    closesWith text word = true ↔
      ∃ start mark, isBlank mark = true ∧ text = start ++ mark :: word := by
  rw [closesWith, Bool.and_eq_true, List.isSuffixOf_iff_suffix]
  constructor
  · rintro ⟨⟨before, rfl⟩, starts⟩
    rw [List.reverse_append, List.drop_left' List.length_reverse] at starts
    rcases List.eq_nil_or_concat' before with rfl | ⟨start, mark, rfl⟩
    · cases starts
    · rw [List.reverse_concat] at starts
      exact ⟨start, mark, starts, List.append_assoc _ _ _⟩
  · rintro ⟨start, mark, blank, rfl⟩
    rw [List.reverse_append, List.reverse_cons, List.append_assoc,
      List.drop_left' List.length_reverse]
    exact ⟨⟨start ++ [mark], List.append_assoc _ _ _⟩, blank⟩

section Line

variable
  {line : List (List Char)}
  {keyword : List Char}

/-- A line opens with a keyword exactly if the keyword is its first word and not its last. -/
theorem opensWith_unwords_iff
    (letters : ∀ word ∈ line, ∀ letter ∈ word, isBlank letter = false)
    (noSpace : ' ' ∉ keyword) :
    opensWith (unwords line) keyword = true ↔ 2 ≤ line.length ∧ line.head? = some keyword := by
  rw [opensWith_iff]
  constructor
  · rintro ⟨mark, rest, blank, whole⟩
    have inside : mark ∈ unwords line := by
      rw [whole]
      exact List.mem_append_right _ List.mem_cons_self
    obtain rfl := eq_space_of_mem_unwords letters inside blank
    cases line with
    | nil => cases inside
    | cons word others =>
        have noSpaceInWord : ' ' ∉ word := fun present =>
          Bool.noConfusion (letters word List.mem_cons_self ' ' present)
        by_cases alone : others = []
        · rw [alone] at inside
          exact absurd inside noSpaceInWord
        · rw [unwords_cons _ alone] at whole
          obtain ⟨rfl, -⟩ := eq_of_append_cons noSpaceInWord noSpace whole
          exact ⟨Nat.succ_le_succ (List.length_pos_iff.mpr alone), rfl⟩
  · rintro ⟨several, first⟩
    obtain ⟨others, rfl⟩ := List.head?_eq_some_iff.mp first
    have more : others ≠ [] := List.length_pos_iff.mp (Nat.le_of_succ_le_succ several)
    exact ⟨' ', unwords others, rfl, unwords_cons _ more⟩

/-- A line closes with a keyword exactly if the keyword is its last word and not its first. -/
theorem closesWith_unwords_iff
    (letters : ∀ word ∈ line, ∀ letter ∈ word, isBlank letter = false)
    (noSpace : ' ' ∉ keyword) :
    closesWith (unwords line) keyword = true ↔ 2 ≤ line.length ∧ line.getLast? = some keyword := by
  rw [closesWith_iff]
  constructor
  · rintro ⟨start, mark, blank, whole⟩
    have inside : mark ∈ unwords line := by
      rw [whole]
      exact List.mem_append_right _ List.mem_cons_self
    obtain rfl := eq_space_of_mem_unwords letters inside blank
    rcases List.eq_nil_or_concat' line with rfl | ⟨others, last, rfl⟩
    · cases inside
    · have noSpaceInWord : ' ' ∉ last := fun present =>
        Bool.noConfusion (letters last (by simp) ' ' present)
      by_cases alone : others = []
      · rw [alone] at inside
        exact absurd inside noSpaceInWord
      · rw [unwords_concat _ alone] at whole
        obtain ⟨-, rfl⟩ := eq_of_append_cons_last noSpaceInWord noSpace whole
        rw [List.length_append, List.length_singleton, List.getLast?_concat]
        exact ⟨Nat.succ_le_succ (List.length_pos_iff.mpr alone), rfl⟩
  · rintro ⟨several, last⟩
    obtain ⟨others, rfl⟩ := List.getLast?_eq_some_iff.mp last
    rw [List.length_append, List.length_singleton] at several
    have more : others ≠ [] := List.length_pos_iff.mp (Nat.le_of_succ_le_succ several)
    exact ⟨unwords others, ' ', rfl, unwords_concat _ more⟩

end Line

/-- The words of a text in upper case. -/
def upperWords (text : List Char) : List (List Char) :=
  (words text).map (List.map Char.toUpper)

/-- The keywords that a statement does not double. -/
def undoubledKeywords : List (List Char) :=
  ["WHERE".toList, "FROM".toList]

/-- Words that make a statement. -/
structure IsStatement (line : List (List Char)) : Prop where
  /-- There is more than a keyword. -/
  several : 2 ≤ line.length
  /-- The first word can open a statement. -/
  opens : ∃ first ∈ line.head?, first ∈ openingKeywords
  /-- The last word leaves no clause open. -/
  closes : ∀ last ∈ line.getLast?, last ∉ openClauses
  /-- No clause keyword stands twice in a row. -/
  undoubled : ∀ keyword ∈ undoubledKeywords, ¬ [keyword, keyword] <:+: line

/-- A word that ends in a keyword meets a word that starts with it. -/
def LooksDoubled (keyword : List Char) (line : List (List Char)) : Prop :=
  ∃ first second, [first, second] <:+: line ∧ keyword <:+ first ∧ keyword <+: second

/-- A line holds a keyword twice, with a space between, exactly if it looks doubled. -/
theorem contains_unwords_iff
    {line : List (List Char)}
    {keyword : List Char}
    (noSpaces : ∀ word ∈ line, ' ' ∉ word)
    (noSpace : ' ' ∉ keyword) :
    contains (unwords line) (keyword ++ ' ' :: keyword) = true ↔ LooksDoubled keyword line := by
  rw [contains_iff, infix_unwords_iff noSpace noSpace noSpaces]
  rfl

/-- No word in upper case holds a blank. -/
theorem isBlank_of_mem_upperWords
    {text word : List Char}
    (present : word ∈ upperWords text) : ∀ letter ∈ word, isBlank letter = false := by
  obtain ⟨source, inText, rfl⟩ := List.mem_map.mp present
  rw [List.forall_mem_map]
  intro letter inSource
  rw [← Bool.not_eq_true]
  intro blank
  have noBlank := (of_mem_words inText).2 letter inSource
  rw [isBlank_of_toUpper blank] at noBlank
  cases noBlank

/-- A line opens a statement exactly if its first word does, and another follows. -/
theorem any_opensWith_unwords_iff
    {line : List (List Char)}
    (letters : ∀ word ∈ line, ∀ letter ∈ word, isBlank letter = false) :
    openingKeywords.any (opensWith (unwords line)) = true ↔
      2 ≤ line.length ∧ ∃ first ∈ line.head?, first ∈ openingKeywords := by
  have noSpace : ∀ keyword ∈ openingKeywords, ' ' ∉ keyword := by decide
  rw [List.any_eq_true]
  constructor
  · rintro ⟨keyword, known, opens⟩
    obtain ⟨several, first⟩ := (opensWith_unwords_iff letters (noSpace keyword known)).mp opens
    exact ⟨several, keyword, first, known⟩
  · rintro ⟨several, keyword, first, known⟩
    exact ⟨keyword, known,
      (opensWith_unwords_iff letters (noSpace keyword known)).mpr ⟨several, first⟩⟩

/-- A line leaves a clause open exactly if its last word does, and another stands before it. -/
theorem any_closesWith_unwords_iff
    {line : List (List Char)}
    (letters : ∀ word ∈ line, ∀ letter ∈ word, isBlank letter = false) :
    openClauses.any (closesWith (unwords line)) = true ↔
      2 ≤ line.length ∧ ∃ last ∈ line.getLast?, last ∈ openClauses := by
  have noSpace : ∀ keyword ∈ openClauses, ' ' ∉ keyword := by decide
  rw [List.any_eq_true]
  constructor
  · rintro ⟨keyword, known, closes⟩
    obtain ⟨several, last⟩ := (closesWith_unwords_iff letters (noSpace keyword known)).mp closes
    exact ⟨several, keyword, last, known⟩
  · rintro ⟨several, keyword, last, known⟩
    exact ⟨keyword, known,
      (closesWith_unwords_iff letters (noSpace keyword known)).mpr ⟨several, last⟩⟩

theorem LooksDoubled.of_doubled
    {line : List (List Char)}
    {keyword : List Char}
    (doubled : [keyword, keyword] <:+: line) : LooksDoubled keyword line :=
  ⟨keyword, keyword, doubled, List.suffix_refl keyword, List.prefix_refl keyword⟩

/-- A text on one line has the shape of a statement exactly if its words are those of a statement
and nowhere does a word that ends in a clause keyword meet one that starts with it. -/
theorem hasStatementShape_iff_isStatement
    {text : List Char}
    (collapsed : collapse text = text) :
    hasStatementShape text = true ↔
      IsStatement (upperWords text) ∧
        ∀ keyword ∈ undoubledKeywords, ¬ LooksDoubled keyword (upperWords text) := by
  have trimmed : trim text = text := by
    rw [← collapsed, trim_collapse]
  have upper : text.map Char.toUpper = unwords (upperWords text) := by
    rw [upperWords, ← map_unwords (by decide), ← collapse_eq_unwords_words, collapsed]
  have letters : ∀ word ∈ upperWords text, ∀ letter ∈ word, isBlank letter = false :=
    fun _ present => isBlank_of_mem_upperWords present
  have noSpaces : ∀ word ∈ upperWords text, ' ' ∉ word := fun word present space =>
    Bool.noConfusion (letters word present ' ' space)
  have doubles : contains (unwords (upperWords text)) "WHERE WHERE".toList = true ↔
      LooksDoubled "WHERE".toList (upperWords text) :=
    @contains_unwords_iff _ "WHERE".toList noSpaces (by decide)
  have doublesFrom : contains (unwords (upperWords text)) "FROM FROM".toList = true ↔
      LooksDoubled "FROM".toList (upperWords text) :=
    @contains_unwords_iff _ "FROM".toList noSpaces (by decide)
  rw [hasStatementShape, trimmed, upper]
  simp only [Bool.and_eq_true, Bool.not_eq_true', ← Bool.not_eq_true,
    any_opensWith_unwords_iff letters, any_closesWith_unwords_iff letters, doubles, doublesFrom]
  constructor
  · rintro ⟨⟨⟨⟨several, opens⟩, closes⟩, noWhere⟩, noFrom⟩
    have single : ∀ keyword ∈ undoubledKeywords, ¬ LooksDoubled keyword (upperWords text) := by
      simpa [undoubledKeywords] using And.intro noWhere noFrom
    refine ⟨⟨several, opens, ?_, ?_⟩, single⟩
    · exact fun last isLast known => closes ⟨several, last, isLast, known⟩
    · exact fun keyword known doubled => single keyword known (LooksDoubled.of_doubled doubled)
  · rintro ⟨statement, single⟩
    refine ⟨⟨⟨⟨statement.several, statement.opens⟩, ?_⟩, ?_⟩, ?_⟩
    · rintro ⟨-, last, isLast, known⟩
      exact statement.closes last isLast known
    · exact single _ (by decide)
    · exact single _ (by decide)

/-- A statement in which names hold the clause keywords. -/
theorem isStatement_of_names :
    collapse "update from_log set where_x = 1 where x_from = 2".toList =
        "update from_log set where_x = 1 where x_from = 2".toList ∧
      hasStatementShape "update from_log set where_x = 1 where x_from = 2".toList = true ∧
        IsStatement (upperWords "update from_log set where_x = 1 where x_from = 2".toList) ∧
          ∀ keyword ∈ undoubledKeywords, ¬ LooksDoubled keyword
            (upperWords "update from_log set where_x = 1 where x_from = 2".toList) :=
  ⟨by decide +kernel, by decide +kernel,
    (hasStatementShape_iff_isStatement (by decide +kernel)).mp (by decide +kernel)⟩

/-- A column whose name ends in a keyword makes a statement lose its shape. -/
theorem column_takes_statement_shape :
    hasStatementShape "SELECT x_from FROM a, b".toList = false ∧
      IsStatement (upperWords "SELECT x_from FROM a, b".toList) :=
  ⟨by decide +kernel, by decide +kernel, ⟨_, rfl, by decide +kernel⟩, by decide +kernel, by decide +kernel⟩

end Template
end TableReach
