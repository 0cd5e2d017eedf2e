import TableReach.Template.Shape
import TableReach.Sql.Grammar.Statement
import TableReach.Proofs.Sql.Lexer.OneLine
import TableReach.Proofs.Text.Letter

/-!
# Keywords alone

A text that is nothing but the keyword of a statement, in any case, is a single
word to the lexer and no statement.
-/

namespace TableReach
namespace Sql

open Text Lexer

theorem continuesName_of_letter
    (dialect : Dialect)
    {character : Char}
    (letter : character.toUpper.isUpper = true) : dialect.continuesName character = true := by
  refine of_isUpper_toUpper (fun character => dialect.continuesName character = true) ?_ letter
  cases dialect <;> decide

/-- Letters are in upper case what they are in ASCII. -/
theorem upper_of_letters
    {word : List Char}
    (letters : ∀ character ∈ word, character.toUpper.isUpper = true) :
    upper word = word.map Char.toUpper := by
  induction word with
  | nil => rfl
  | cons character word inductionHypothesis =>
      have single : upperLetters character = [character.toUpper] :=
        of_isUpper_toUpper (fun character => upperLetters character = [character.toUpper])
          (by decide) (letters character List.mem_cons_self)
      have others := inductionHypothesis fun other present =>
        letters other (List.mem_cons_of_mem _ present)
      rw [upper, List.flatMap_cons, single, List.map_cons, ← others]
      rfl

theorem scanToken_of_u
    (dialect : Dialect)
    {first : Char}
    {rest : List Char}
    (isU : first.toUpper = 'U')
    (noMark : rest.head? ≠ some '&') :
    scanToken dialect none first rest = scanWord dialect [first] rest := by
  rw [scanToken, scanLetter_of_u isU noMark]

/-- A word that starts as the keyword of a statement is scanned as a word. -/
theorem scanToken_of_keyword
    (dialect : Dialect)
    {first : Char}
    {rest : List Char}
    (opens : first.toUpper ∈ ['W', 'S', 'I', 'U', 'D'])
    (noMark : rest.head? ≠ some '&') :
    scanToken dialect none first rest = scanWord dialect [first] rest := by
  have letter : first.toUpper.isUpper = true := by
    have letters : ['W', 'S', 'I', 'U', 'D'].all Char.isUpper = true := by decide
    exact List.all_eq_true.mp letters _ opens
  have options : first ∈ ['W', 'w', 'S', 's', 'I', 'i', 'D', 'd'] ∨ first.toUpper = 'U' :=
    of_isUpper_toUpper (fun first => first.toUpper ∈ ['W', 'S', 'I', 'U', 'D'] →
      first ∈ ['W', 'w', 'S', 's', 'I', 'i', 'D', 'd'] ∨ first.toUpper = 'U') (by decide)
      letter opens
  rcases options with plain | isU
  · simp only [List.mem_cons, List.not_mem_nil, or_false] at plain
    rcases plain with rfl | rfl | rfl | rfl | rfl | rfl | rfl | rfl <;> cases dialect <;> rfl
  · exact scanToken_of_u dialect isU noMark

/-- The lexeme of a word that is a keyword in upper case. -/
def keywordLexeme (word : List Char) : Lexeme where
  token := .word (String.ofList word) none
  keyword := String.ofList (word.map Char.toUpper)
  spaced := true

/-- A word that is the keyword of a statement is the first lexeme of a text, if the word ends
there. -/
theorem lexemes?_of_keyword_append
    (dialect : Dialect)
    {word behind : List Char}
    (known : word.map Char.toUpper ∈ Template.openingKeywords)
    (ends : ∀ next ∈ behind.head?, dialect.continuesName next = false)
    (noMark : behind.head? ≠ some '&') :
    ∃ limit, lexemes? dialect (word ++ behind) =
      (lexemesFrom? dialect limit (some (keywordLexeme word).token) [] behind).map
        (keywordLexeme word :: ·) := by
  have shape : (word.map Char.toUpper).all Char.isUpper = true ∧
      ((word.map Char.toUpper).head?.any fun first =>
        first ∈ ['W', 'S', 'I', 'U', 'D']) = true := by
    revert known
    generalize word.map Char.toUpper = keyword
    revert keyword
    decide
  have letters (character : Char) (present : character ∈ word) :
      character.toUpper.isUpper = true :=
    List.all_eq_true.mp shape.1 _ (List.mem_map_of_mem present)
  cases word with
  | nil => exact nomatch shape.2
  | cons first rest =>
      have opens : first.toUpper ∈ ['W', 'S', 'I', 'U', 'D'] := by
        simpa using shape.2
      have noMarkInside : (rest ++ behind).head? ≠ some '&' := by
        cases rest with
        | nil => exact noMark
        | cons next others =>
            intro isMark
            obtain rfl := Option.some_inj.mp isMark
            exact nomatch letters '&' (List.mem_cons_of_mem _ List.mem_cons_self)
      have continues (character : Char) (present : character ∈ rest) :
          dialect.continuesName character = true :=
        continuesName_of_letter dialect (letters character (List.mem_cons_of_mem _ present))
      have isToken : lead dialect (first :: (rest ++ behind)) = .token := by
        have noMark : first ≠ '/' ∧ first ≠ '-' ∧ first ≠ '#' ∧ dialect.divides first = false := by
          refine of_isUpper_toUpper (fun first => first ≠ '/' ∧ first ≠ '-' ∧ first ≠ '#' ∧
            dialect.divides first = false) ?_ (letters first List.mem_cons_self)
          cases dialect <;> decide
        rw [lead_of_noMark (fun slash => absurd slash noMark.1) (fun dash => absurd dash noMark.2.1)
          noMark.2.2.1, noMark.2.2.2]
        rfl
      have scanned : scanToken dialect none first (rest ++ behind) =
          some ((keywordLexeme (first :: rest)).token, behind) := by
        have nothing : behind.takeWhile dialect.continuesName = [] ∧
            behind.dropWhile dialect.continuesName = behind := by
          cases behind with
          | nil => exact ⟨rfl, rfl⟩
          | cons next others => simp [ends next rfl]
        rw [scanToken_of_keyword dialect opens noMarkInside, scanWord,
          List.takeWhile_append_of_pos continues, List.dropWhile_append_of_pos continues,
          nothing.1, nothing.2, List.append_nil]
        rfl
      have keyword : (keywordLexeme (first :: rest)).token.keyword =
          (keywordLexeme (first :: rest)).keyword := by
        rw [keywordLexeme, Token.keyword, String.toList_ofList, upper_of_letters letters]
      refine ⟨2 * (first :: (rest ++ behind)).length, ?_⟩
      rw [lexemes?, List.cons_append, lexemesFrom?_cons, isToken, scanned]
      dsimp only
      rw [keyword]
      rfl

/-- A word that is the keyword of a statement is one lexeme. -/
theorem lexemes?_of_keyword
    (dialect : Dialect)
    {word : List Char}
    (known : word.map Char.toUpper ∈ Template.openingKeywords) :
    lexemes? dialect word = some [keywordLexeme word] := by
  have empty (next : Char) (first : next ∈ ([] : List Char).head?) :
      dialect.continuesName next = false :=
    nomatch first
  obtain ⟨limit, found⟩ := lexemes?_of_keyword_append dialect known empty nofun
  rw [List.append_nil, lexemesFrom?_nil] at found
  exact found

/-- A text that is nothing but the keyword of a statement is no statement. -/
theorem Grammar.statements?_of_keyword
    (dialect : Dialect)
    {word : List Char}
    (known : word.map Char.toUpper ∈ Template.openingKeywords) :
    statements? dialect word = none := by
  rw [statements?, lexemes?_of_keyword dialect known, keywordLexeme]
  generalize String.ofList word = text
  simp only [Template.openingKeywords, List.mem_cons, List.not_mem_nil, or_false] at known
  rcases known with same | same | same | same | same <;> rw [same] <;> cases dialect <;> rfl

end Sql
end TableReach
